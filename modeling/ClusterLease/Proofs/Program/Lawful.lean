import ClusterLease.Program

/-!
Sequences of programs can be regrouped.

With the laws of a monad, loops over lists can be taken apart at their first item.
-/

namespace ClusterLease.Program

variable {I : Interface} {α β γ : Type}

theorem bind_pure_right (p : Program I α) : p.bind pure = p := by
  induction p with
  | done outcome => cases outcome <;> rfl
  | ask call next ih => exact congrArg (ask call) (funext ih)

/-- Three programs run one after another may be grouped either way, also when the first one fails. -/
theorem bind_assoc (p : Program I α) (f : α → Program I β) (g : β → Program I γ) :
    (p.bind f).bind g = p.bind fun value => (f value).bind g := by
  induction p with
  | done outcome => cases outcome <;> rfl
  | ask call next ih => exact congrArg (ask call) (funext ih)

instance : LawfulMonad (Program I) :=
  LawfulMonad.mk' (Program I) (fun p => bind_pure_right p) (fun _ _ => rfl) bind_assoc

end ClusterLease.Program
