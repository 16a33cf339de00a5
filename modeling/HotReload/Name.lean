/-!
# Dotted names

Symbols and name spaces have names such as `lib.greetings.hello`: segments of letters, digits, `_`
and `-`, separated by dots. `NameFault.of?` finds what is wrong with a text that should be such a
name, and `within` tells whether a name lies in a name space.
-/

namespace HotReload

/-- Why a text is not a dotted name. -/
inductive NameFault where
  | empty
  /-- Two dots meet, or a dot stands at an end. -/
  | emptySegment
  /-- A character that no segment may hold. -/
  | illegal (c : Char)
  deriving DecidableEq, Repr

namespace NameFault

def message : NameFault → String
  | .empty => "name is empty"
  | .emptySegment => "empty path segment"
  | .illegal c => "illegal character '" ++ c.toString ++ "'"

def isSegmentChar (c : Char) : Bool :=
  c.isAlphanum || c == '_' || c == '-'

def ofSegment? (segment : List Char) : Option NameFault :=
  if segment.isEmpty then some .emptySegment
  else (segment.find? fun c => !isSegmentChar c).map .illegal

def of? (text : String) : Option NameFault :=
  if text.toList.isEmpty then some .empty
  else (text.toList.splitOn '.').findSome? ofSegment?

end NameFault

def IsDottedName (text : String) : Prop :=
  NameFault.of? text = none

instance (text : String) : Decidable (IsDottedName text) :=
  inferInstanceAs (Decidable (_ = _))

/-- Whether `name` is `space` or continues it after a dot: `pkg.text` holds `pkg.text.join`, but not
`pkg.texts`. -/
def within (name space : String) : Bool :=
  match space.toList.isPrefixOf? name.toList with
  | some [] => true
  | some (c :: _) => c == '.'
  | none => false

end HotReload
