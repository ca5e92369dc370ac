/-!
# Paths

A path keeps the text it was given. Two paths lead to the same place by their text alone when
they have the same components.
-/

namespace IdentityStore.Text

def pieces : List Char → List (List Char)
  | [] => [[]]
  | '/' :: r => [] :: pieces r
  | c :: r =>
    match pieces r with
    | [] => [[c]]
    | p :: ps => (c :: p) :: ps

structure Path where
  text : String
deriving DecidableEq

namespace Path

/-- The temporary directory, unless the environment names another one. -/
def temporary : Path := ⟨"/tmp"⟩

/-- The path that leads on from a directory. What begins at the root leads there from anywhere. -/
def join (p : Path) (next : String) : Path :=
  match next.toList.head?, p.text.toList.getLast? with
  | some '/', _ => ⟨next⟩
  | _, none | _, some '/' => ⟨p.text ++ next⟩
  | _, some _ => ⟨p.text ++ "/" ++ next⟩

/-- The components of a path. Empty pieces and single dots are left out, except a dot that
begins a relative path; the root of an absolute path is the component `/`. -/
def components (p : Path) : List String :=
  let parts := pieces p.text.toList
  let start := match p.text.toList, parts with
    | '/' :: _, _ => ["/"]
    | _, ['.'] :: _ => ["."]
    | _, _ => []
  start ++ (parts.filter fun part => part != [] && part != ['.']).map .ofList

def same (p q : Path) : Bool := p.components == q.components

end Path

end IdentityStore.Text
