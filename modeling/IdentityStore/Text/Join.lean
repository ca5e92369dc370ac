/-!
# Joined texts

Texts with a separator between neighbours and none at the ends.
-/

namespace IdentityStore.Text

def join (separator : String) : List String → String
  | [] => ""
  | [s] => s
  | s :: rest => s ++ separator ++ join separator rest

@[simp] theorem join_nil (separator : String) : join separator [] = "" := rfl

@[simp] theorem join_singleton (separator s : String) : join separator [s] = s := rfl

theorem join_cons_cons (separator s t : String) (rest : List String) :
    join separator (s :: t :: rest) = s ++ separator ++ join separator (t :: rest) := rfl

/-- Joining puts the separator between neighbours and nowhere else. -/
theorem join_eq_intercalate (separator : String) :
    ∀ texts : List String, join separator texts = separator.intercalate texts
  | [] => String.intercalate_nil.symm
  | [_] => String.intercalate_singleton.symm
  | s :: t :: rest => by
    rw [join_cons_cons, String.intercalate_cons_cons, join_eq_intercalate separator (t :: rest)]

end IdentityStore.Text
