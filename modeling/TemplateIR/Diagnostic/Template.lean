/-!
Message templates. The placeholder of an argument is its index, counted from zero, in braces.
Arguments are put in one after the other, so a later argument also finds the placeholders that an
earlier one has brought along.
-/
namespace TemplateIR

/-- Puts `insert` in place of every occurrence of the pattern `first :: others`, from the left and
without overlap. The first `skip` characters belong to an occurrence that is already replaced. -/
def replaceFrom (first : Char) (others insert : List Char) : Nat → List Char → List Char
  | _, [] => []
  | skip + 1, _ :: rest => replaceFrom first others insert skip rest
  | 0, c :: rest =>
    if c = first && others.isPrefixOf rest then
      insert ++ replaceFrom first others insert others.length rest
    else c :: replaceFrom first others insert 0 rest

/-- The part of the placeholder of argument `index` that follows the opening brace. -/
def placeholderTail (index : Nat) : List Char :=
  Nat.toDigits 10 index ++ ['}']

def fillOne (index : Nat) (argument text : List Char) : List Char :=
  replaceFrom '{' (placeholderTail index) argument 0 text

/-- Puts in `arguments`, the first of which has the number `index`. -/
def fillFrom (index : Nat) : List (List Char) → List Char → List Char
  | [], text => text
  | argument :: rest, text => fillFrom (index + 1) rest (fillOne index argument text)

def fillTemplate (template : String) (arguments : List String) : String :=
  String.ofList (fillFrom 0 (arguments.map String.toList) template.toList)

end TemplateIR
