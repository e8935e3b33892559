import QuerySql.Main
import QuerySql.Proofs.Entries
import QuerySql.Proofs.Outcome
import QuerySql.Proofs.Text.Quoted
import QuerySql.Proofs.Number.Bare
import QuerySql.Proofs.Json.Numeral
import QuerySql.Proofs.Json.Token
import QuerySql.Proofs.Json.Source
import QuerySql.Proofs.Json.Text
import QuerySql.Proofs.Value.Literal
import QuerySql.Proofs.Value.Storage
import QuerySql.Proofs.Sql.Test
import QuerySql.Proofs.Sql.Connective
import QuerySql.Proofs.Sql.Expression
import QuerySql.Proofs.Filter.Reading
import QuerySql.Proofs.Filter.Image
import QuerySql.Proofs.Condition.Leaf
import QuerySql.Proofs.Condition.Layout
import QuerySql.Proofs.Condition.Text
import QuerySql.Proofs.Condition.Containment
import QuerySql.Proofs.Condition.Grammar
import QuerySql.Proofs.Condition.Meaning
import QuerySql.Proofs.Criteria.Reading
import QuerySql.Proofs.Statement.Assignment
import QuerySql.Proofs.Statement.Change
import QuerySql.Proofs.Statement.Refusal
import QuerySql.Proofs.Condition.Draft
import QuerySql.Proofs.Filter.Names
import QuerySql.Proofs.Statement.Diagnostics
import QuerySql.Proofs.Number.Numeral
import QuerySql.Proofs.Sql.Items
import QuerySql.Proofs.Statement.Insertion
import QuerySql.Proofs.Sql.Clause
import QuerySql.Proofs.Sql.Query
import QuerySql.Proofs.Statement.Selection
import QuerySql.Proofs.Criteria.Order
import QuerySql.Proofs.Condition.Search
import QuerySql.Proofs.Json.Indented
import QuerySql.Proofs.Column.Written
import QuerySql.Proofs.CommandLine.Introspection
import QuerySql.Proofs.Sql.Definition
import QuerySql.Proofs.Statement.Creation
import QuerySql.Proofs.Sql.Pattern
import QuerySql.Proofs.Condition.Reading
import QuerySql.Proofs.Condition.LikeGroup
import QuerySql.Proofs.Condition.Exclusion
import QuerySql.Proofs.SortOrder.Words
import QuerySql.Proofs.Number.Denotation
import QuerySql.Proofs.Statement.Paging
import QuerySql.Proofs.SortOrder.Agreement
import QuerySql.Proofs.Value.Integer
import QuerySql.Proofs.Instant.Text
