/-
  Text as SQL and plain lines write it.

  * `isBlank` holds of the 25 characters with the Unicode property
    White_Space, `isLineBlank` of the four blanks that lay out a line of plain
    text: space, tab, carriage return and line feed;
  * `AllBlank` says that a text consists of blanks only (the empty text does);
  * `lowerCase` lowers the letters A to Z and keeps every other character, so
    two texts are equal up to the case of ASCII letters iff their `lowerCase`
    texts are equal;
  * `quoted` is a string literal: the text between two quotes, with every quote
    in it written twice (`doubleQuotes`);
  * `bracketed` is a bracketed name: the doubled text between brackets.  A
    closing bracket inside the name is not marked in any way, so a name that
    holds one does not read back;
  * `trimQuotes` drops the whole runs of quotes at both ends;
  * `replaceAll old new text` replaces the occurrences of `old` in `text`,
    leftmost first and without overlap: after an occurrence the search goes on
    behind it, and the text put in its place is not searched.

  `doubleQuotes_append` lets a text be quoted piece by piece, and
  `count_doubleQuotes` is the rule of the format: a quote is written twice and
  any other character once.
-/
namespace QuerySql.Text

/-! ## Blanks -/

/-- The characters with the Unicode property White_Space. -/
def isBlank (c : Char) : Bool :=
  let n := c.toNat
  (0x9 ≤ n && n ≤ 0xD) || n == 0x20 || n == 0x85 || n == 0xA0 || n == 0x1680 ||
    (0x2000 ≤ n && n ≤ 0x200A) || n == 0x2028 || n == 0x2029 || n == 0x202F ||
    n == 0x205F || n == 0x3000

/-- Space, tab, carriage return and line feed. -/
def isLineBlank (c : Char) : Bool :=
  c == ' ' || c == '\t' || c == '\r' || c == '\n'

/-- A text of blanks only. -/
def AllBlank (text : String) : Prop := ∀ c ∈ text.toList, isBlank c = true

instance (text : String) : Decidable (AllBlank text) :=
  List.decidableBAll (fun c => isBlank c = true) text.toList

/-! ## Letter case -/

/-- The text with A to Z lowered. -/
def lowerCase (text : String) : String := String.ofList (text.toList.map Char.toLower)

@[simp] theorem toList_lowerCase (text : String) :
    (lowerCase text).toList = text.toList.map Char.toLower := by
  simp [lowerCase]

/-! ## Quotes and brackets -/

/-- Writes every single quote twice. -/
def doubleQuotes : List Char → List Char
  | [] => []
  | c :: cs => if c = '\'' then '\'' :: '\'' :: doubleQuotes cs else c :: doubleQuotes cs

theorem doubleQuotes_append (s t : List Char) :
    doubleQuotes (s ++ t) = doubleQuotes s ++ doubleQuotes t := by
  induction s with
  | nil => rfl
  | cons c s ih => by_cases h : c = '\'' <;> simp [doubleQuotes, h, ih]

/-- A quote is written twice and any other character once. -/
theorem count_doubleQuotes (x : Char) (s : List Char) :
    (doubleQuotes s).count x = (if x = '\'' then 2 else 1) * s.count x := by
  induction s with
  | nil => rfl
  | cons c s ih => by_cases h : c = '\'' <;> by_cases hx : x = c <;> grind [doubleQuotes]

/-- Doubling neither adds nor drops a character. -/
theorem mem_doubleQuotes {c : Char} {s : List Char} : c ∈ doubleQuotes s ↔ c ∈ s := by
  rw [← List.count_pos_iff, ← List.count_pos_iff, count_doubleQuotes]
  split <;> omega

/-- A string literal that stands for `text`. -/
def quoted (text : String) : String :=
  "'" ++ String.ofList (doubleQuotes text.toList) ++ "'"

/-- A bracketed name. -/
def bracketed (name : String) : String :=
  "[" ++ String.ofList (doubleQuotes name.toList) ++ "]"

@[simp] theorem toList_quoted (text : String) :
    (quoted text).toList = '\'' :: (doubleQuotes text.toList ++ ['\'']) := by
  simp [quoted]

@[simp] theorem toList_bracketed (name : String) :
    (bracketed name).toList = '[' :: (doubleQuotes name.toList ++ [']']) := by
  simp [bracketed]

/-- The text without the runs of quotes at its two ends. -/
def trimQuotes (text : String) : String :=
  let inner := text.toList.dropWhile (· == '\'')
  String.ofList (inner.reverse.dropWhile (· == '\'')).reverse

/-! ## Replacement -/

/-- Replaces `old` by `new` after passing over `skip` characters. -/
def replaceFrom (old new : List Char) : Nat → List Char → List Char
  | _, [] => []
  | skip + 1, _ :: cs => replaceFrom old new skip cs
  | 0, c :: cs =>
    if old.isPrefixOf (c :: cs) then new ++ replaceFrom old new (old.length - 1) cs
    else c :: replaceFrom old new 0 cs

/-- Replaces the occurrences of `old` (not empty) by `new`. -/
def replaceAll (old new text : String) : String :=
  String.ofList (replaceFrom old.toList new.toList 0 text.toList)

theorem replaceFrom_skip (old new s t : List Char) :
    replaceFrom old new s.length (s ++ t) = replaceFrom old new 0 t := by
  induction s with
  | nil => rfl
  | cons c s ih => simpa [replaceFrom] using ih

/-- An occurrence at the front is replaced, and the search goes on behind it. -/
theorem replaceFrom_append (c : Char) (old new t : List Char) :
    replaceFrom (c :: old) new 0 (c :: old ++ t) = new ++ replaceFrom (c :: old) new 0 t := by
  have h : (c :: old).isPrefixOf (c :: (old ++ t)) = true := by
    rw [List.isPrefixOf_iff_prefix, ← List.cons_append]
    exact List.prefix_append _ _
  rw [List.cons_append, replaceFrom, if_pos h]
  simp [replaceFrom_skip]

/-- A character where no occurrence starts is kept. -/
theorem replaceFrom_cons (old new : List Char) {c : Char} {t : List Char}
    (h : ¬ old.isPrefixOf (c :: t)) :
    replaceFrom old new 0 (c :: t) = c :: replaceFrom old new 0 t := by
  simp [replaceFrom, h]

end QuerySql.Text
