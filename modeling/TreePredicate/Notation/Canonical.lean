import TreePredicate.Notation.PathText
import TreePredicate.Predicate

/-!
# The canonical form of predicates

* `numberTestText` : numbers with their width suffix, ranges with their brackets;
* `printed` : the canonical form of a predicate. Fields come in order and negated ones last; the
  fields of index groups are written with their whole path;
* `print?` : the same, refused for an index group that is no field of a group.
-/

set_option autoImplicit false

namespace TreePredicate.Notation

/-- The suffix of a declared width. -/
def suffixText (width? : Option Width) : String :=
  match width? with
  | none => ""
  | some width => width.suffix.toString

/-- The written form of a bound. -/
def boundText (bound? : Option Number) : String :=
  match bound? with
  | none => ""
  | some value => value.text

/-- The written form of a number with its width. -/
def numberText (value : Number) (width? : Option Width) : String := value.text ++ suffixText width?

/-- The written form of a test of a number. -/
def numberTestText : NumberTest → String
  | .equals value width? => numberText value width?
  | .compare comparison value width? => comparison.symbol ++ " " ++ numberText value width?
  | .range lower? upper? lowerIncluded upperIncluded width? =>
    (if lowerIncluded then "[" else "(") ++ boundText lower? ++ "~" ++ boundText upper? ++
      (if upperIncluded then "]" else ")") ++ suffixText width?

/-! ## Predicates that have a written form -/

/-- An index group, which is written as part of a path only. -/
def isIndexGroup : Predicate → Bool
  | .indexGroup _ => true
  | _ => false

mutual

/-- Every index group inside a predicate is a field of a group. -/
def isWritableField : Predicate → Bool
  | .group fields negated => namedWritable fields && negatedWritable negated
  | .indexGroup fields => numberedWritable fields
  | .list _ elements => elementsWritable elements
  | _ => true

/-- Every index group inside the fields of a group is a field of a group. -/
def namedWritable : List (String × Predicate) → Bool
  | [] => true
  | (_, p) :: rest => isWritableField p && namedWritable rest

/-- Every index group inside the fields of an index group is a field of a group. -/
def numberedWritable : List (Int × Predicate) → Bool
  | [] => true
  | (_, p) :: rest => isWritableField p && numberedWritable rest

/-- Every index group in negated fields is a field of a group. -/
def negatedWritable : List (Path × Predicate) → Bool
  | [] => true
  | (_, p) :: rest => !isIndexGroup p && isWritableField p && negatedWritable rest

/-- Every index group in the elements of a list predicate is a field of a group. -/
def elementsWritable : List Predicate → Bool
  | [] => true
  | p :: rest => !isIndexGroup p && isWritableField p && elementsWritable rest

end

/-- Every index group in a predicate is a field of a group. -/
def isWritable (p : Predicate) : Bool := !isIndexGroup p && isWritableField p

/-! ## Written forms -/

/-- The written form of a field. -/
def fieldText (field : Path × String) : String := pathText field.1 ++ ": " ++ field.2

/-- The written form of a negated field. -/
def negatedText (field : Path × String) : String := "!" ++ fieldText field

/-- The written form of a group. -/
def groupText (fields negated : List (Path × String)) : String :=
  "\x7b" ++ ", ".intercalate (fields.map fieldText ++ negated.map negatedText) ++ "\x7d"

/-- The written form of a list predicate. -/
def listText (quantifier : Quantifier) (elements : List (Path × String)) : String :=
  quantifier.symbol ++ "[" ++ ", ".intercalate (elements.map Prod.snd) ++ "]"

mutual

/-- The fields that a predicate at the end of a path is written as: one with its canonical form, or
those of its members if it is an index group. -/
def written : Path → Predicate → List (Path × String)
  | path, .group fields negated =>
    [(path, groupText (writtenFields fields) (writtenNegated negated))]
  | path, .indexGroup fields => writtenItems path fields
  | path, .number test => [(path, numberTestText test)]
  | path, .text value => [(path, Text.Quoted.encode value)]
  | path, .pattern p => [(path, "~" ++ Text.Quoted.encode p.source)]
  | path, .list quantifier elements => [(path, listText quantifier (writtenElements elements))]

/-- The fields that the fields of a group are written as. -/
def writtenFields : List (String × Predicate) → List (Path × String)
  | [] => []
  | (key, p) :: rest => written [.key key] p ++ writtenFields rest

/-- The fields that the fields of an index group at the end of a path are written as. -/
def writtenItems : Path → List (Int × Predicate) → List (Path × String)
  | _, [] => []
  | path, (position, p) :: rest =>
    written (path ++ [.index position]) p ++ writtenItems path rest

/-- The fields that negated fields are written as. -/
def writtenNegated : List (Path × Predicate) → List (Path × String)
  | [] => []
  | (path, p) :: rest => written path p ++ writtenNegated rest

/-- The written elements of a list predicate, with empty paths. -/
def writtenElements : List Predicate → List (Path × String)
  | [] => []
  | p :: rest => written [] p ++ writtenElements rest

end

/-- The canonical form of a predicate. -/
def printed (p : Predicate) : String := String.join ((written [] p).map Prod.snd)

/-- What is said of an index group that is no field of a group. -/
def strayIndexGroup : String := "An IndexGroup can only be printed as part of a Group"

/-- The canonical form of a predicate, if it has one. -/
def print? (p : Predicate) : Option String := if isWritable p then some (printed p) else none

end TreePredicate.Notation
