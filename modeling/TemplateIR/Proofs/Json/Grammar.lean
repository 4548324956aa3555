import TemplateIR.Json.Value
import TemplateIR.Text.UnicodeEscape

/-!
The grammar of JSON texts, as far as it says how a value may be spelled. A string denotes code
units, so that an escaped surrogate may stand alone; it denotes a text when its units are the UTF-16
form of that text.
-/
namespace TemplateIR

/-- What holds of the characters in a list is decided without a look at any others. -/
instance (priority := high) decidableForallMemChar {p : Char → Prop} [DecidablePred p] (text : List Char) :
    Decidable (∀ c ∈ text, p c) :=
  List.decidableBAll p text

def jsonBlanks : List Char :=
  [' ', '\t', '\n', '\r']

/-- Any blanks, as they may stand between two tokens. -/
def JsonGap (text : List Char) : Prop :=
  ∀ c ∈ text, c ∈ jsonBlanks

instance (text : List Char) : Decidable (JsonGap text) :=
  inferInstanceAs (Decidable (∀ c ∈ text, c ∈ jsonBlanks))

/-- A hexadecimal digit in upper or lower case. -/
def HexDigit (value : Nat) (c : Char) : Prop :=
  value < 16 ∧ c ∈ [hexDigit value, (hexDigit value).toLower]

instance (value : Nat) (c : Char) : Decidable (HexDigit value c) :=
  inferInstanceAs (Decidable (_ ∧ _))

/-- The four digits of a code unit. -/
inductive HexForm : Nat → List Char → Prop
  | digits {a b c d : Nat} {w x y z : Char} :
    HexDigit a w → HexDigit b x → HexDigit c y → HexDigit d z →
      HexForm (0x1000 * a + 0x100 * b + 0x10 * c + d) [w, x, y, z]

/-- The letters behind a backslash, and what each of these escapes stands for. -/
def jsonEscapes : List (Char × Char) :=
  [('\"', '\"'), ('\\', '\\'), ('/', '/'), ('b', '\x08'), ('f', '\x0C'), ('n', '\n'), ('r', '\r'),
    ('t', '\t')]

/-- The code units that a string denotes, and its spelling between the quotes. -/
inductive JsonString : List Nat → List Char → Prop
  | nil : JsonString [] []
  | raw {c : Char} {units : List Nat} {body : List Char} :
    0x20 ≤ c.toNat → c ≠ '\"' → c ≠ '\\' → JsonString units body →
      JsonString (utf16Units c ++ units) (c :: body)
  | letter {letter c : Char} {units : List Nat} {body : List Char} :
    (letter, c) ∈ jsonEscapes → JsonString units body →
      JsonString (utf16Units c ++ units) ('\\' :: letter :: body)
  | unit {unit : Nat} {digits : List Char} {units : List Nat} {body : List Char} :
    HexForm unit digits → JsonString units body →
      JsonString (unit :: units) ('\\' :: 'u' :: digits ++ body)

/-- Characters that need no escape stand for themselves. -/
theorem JsonString.ofRaw {text : List Char}
    (plain : ∀ c ∈ text, 0x20 ≤ c.toNat ∧ c ≠ '\"' ∧ c ≠ '\\') :
    JsonString (text.flatMap utf16Units) text := by
  induction text with
  | nil => exact .nil
  | cons c text ih =>
      rw [List.forall_mem_cons] at plain
      exact .raw plain.1.1 plain.1.2.1 plain.1.2.2 (ih plain.2)

theorem JsonString.append {units others : List Nat} {front back : List Char}
    (first : JsonString units front) (second : JsonString others back) :
    JsonString (units ++ others) (front ++ back) := by
  induction first with
  | nil => exact second
  | raw shown quote backslash _ ih =>
      rw [List.append_assoc]
      exact .raw shown quote backslash ih
  | letter listed _ ih =>
      rw [List.append_assoc]
      exact .letter listed ih
  | unit hex _ ih =>
      rw [List.append_assoc]
      exact .unit hex ih

def quoted (body : List Char) : List Char :=
  '\"' :: body ++ ['\"']

/-- A string with its quotes, and the text that it denotes. -/
def JsonText (value : String) (text : List Char) : Prop :=
  ∃ body, JsonString (value.toList.flatMap utf16Units) body ∧ text = quoted body

/-- Digits, at least one. -/
def DecimalDigits (text : List Char) : Prop :=
  text ≠ [] ∧ ∀ c ∈ text, c.isDigit = true

instance (text : List Char) : Decidable (DecimalDigits text) :=
  inferInstanceAs (Decidable (_ ∧ _))

/-- No zero stands in front of other digits. -/
def IntegerForm (text : List Char) : Prop :=
  text = ['0'] ∨ DecimalDigits text ∧ text.head? ≠ some '0'

def FractionForm (text : List Char) : Prop :=
  text = [] ∨ ∃ digits, DecimalDigits digits ∧ text = '.' :: digits

def ExponentForm (text : List Char) : Prop :=
  text = [] ∨ ∃ mark ∈ ['e', 'E'], ∃ sign ∈ [[], ['+'], ['-']], ∃ digits,
    DecimalDigits digits ∧ text = mark :: sign ++ digits

inductive JsonNumber : List Char → Prop
  | parts {sign whole fraction exponent : List Char} :
    sign ∈ [[], ['-']] → IntegerForm whole → FractionForm fraction → ExponentForm exponent →
      JsonNumber (sign ++ whole ++ fraction ++ exponent)

def Container.opening : Container → Char
  | .sequence => '['
  | .map => '{'

/-- The name and the value of a member, with the blanks around and between them. -/
inductive MemberForm (name value : List Char) : List Char → Prop
  | parts {front middle behind back : List Char} :
    JsonGap front → JsonGap middle → JsonGap behind → JsonGap back →
      MemberForm name value (front ++ name ++ middle ++ ':' :: behind ++ value ++ back)

/-- What a piece of a text is: a value, or what a container holds between two separators or between
its brackets. -/
inductive JsonPart where
  | value
  | entry (container : Container)
  | entries (container : Container)

/-- The well-formed texts. Names may come more than once, and containers nest without a limit. -/
inductive JsonForm : JsonPart → List Char → Prop
  | word {word : String} : word ∈ ["null", "true", "false"] → JsonForm .value word.toList
  | number {text : List Char} : JsonNumber text → JsonForm .value text
  | text {units : List Nat} {body : List Char} :
    JsonString units body → JsonForm .value (quoted body)
  | empty {container : Container} {gap : List Char} :
    JsonGap gap → JsonForm .value (container.opening :: gap ++ [container.closing])
  | filled {container : Container} {entries : List Char} :
    JsonForm (.entries container) entries →
      JsonForm .value (container.opening :: entries ++ [container.closing])
  | item {front value back : List Char} :
    JsonGap front → JsonForm .value value → JsonGap back →
      JsonForm (.entry .sequence) (front ++ value ++ back)
  | member {units : List Nat} {name value text : List Char} :
    JsonString units name → JsonForm .value value → MemberForm (quoted name) value text →
      JsonForm (.entry .map) text
  | last {container : Container} {entry : List Char} :
    JsonForm (.entry container) entry → JsonForm (.entries container) entry
  | more {container : Container} {entry entries : List Char} :
    JsonForm (.entry container) entry → JsonForm (.entries container) entries →
      JsonForm (.entries container) (entry ++ ',' :: entries)

end TemplateIR
