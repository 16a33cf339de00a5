import HotReload.Text.CaseTable

/-!
# Upper and lower case

The full case mappings of Unicode, without regard to a locale: a character may become several, and a
capital sigma at the end of a word becomes the final small sigma.
-/

namespace HotReload.Text

/-- The image of `c` in a case mapping given by runs and expansions; `c` itself if it has none. -/
def mapCase (runs : Array CaseRun) (expansions : Array (Nat × List Nat)) (c : Char) : List Char :=
  let n := c.toNat
  match lastUpTo? (·.1) expansions n with
  | some (m, image) => if m = n then image.map Char.ofNat else single n
  | none => single n
where
  /-- The image of the code point `n` in the runs. -/
  single (n : Nat) : List Char :=
    match lastUpTo? (·.first) runs n with
    | some run =>
      if n ≤ run.last ∧ (n - run.first) % run.stride = 0 then
        [Char.ofNat (n + run.shift).toNat]
      else [c]
    | none => [c]

/-- Whether the first character of `cs` that is not case-ignorable is cased. -/
def startsCased (cs : List Char) : Bool :=
  match cs.dropWhile caseIgnorable.contains with
  | [] => false
  | c :: _ => cased.contains c

/-- Lower-cases the characters of `rest`, which follow those of `before`, latest first. -/
def lowerAfter (before : List Char) : List Char → List Char
  | [] => []
  | c :: rest =>
    let image :=
      if c = 'Σ' then
        if startsCased before && !startsCased rest then ['ς'] else ['σ']
      else mapCase lowerRuns lowerExpansions c
    image ++ lowerAfter (c :: before) rest

def toLower (s : String) : String :=
  .ofList (lowerAfter [] s.toList)

def toUpper (s : String) : String :=
  .ofList (s.toList.flatMap (mapCase upperRuns upperExpansions))

end HotReload.Text
