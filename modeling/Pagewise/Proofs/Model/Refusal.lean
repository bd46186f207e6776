import Pagewise.Proofs.Model.Entries

/-!
Every step of resolution that fails does so with a configuration error.
-/
namespace Pagewise

def FailsConfigured {α : Type} (x : Except Error α) : Prop :=
  ∀ e, x = .error e → e.isConfiguration = true

namespace FailsConfigured

theorem ok {α : Type} (a : α) : FailsConfigured (.ok a : Except Error α) := by
  intro e h
  cases h

theorem error {α : Type} {e : Error} (h : e.isConfiguration = true) :
    FailsConfigured (.error e : Except Error α) := by
  intro e' h'
  cases h'
  exact h

theorem bind {α β : Type} {x : Except Error α} {f : α → Except Error β} (first : FailsConfigured x)
    (next : ∀ a, FailsConfigured (f a)) : FailsConfigured (x >>= f) := by
  cases x with
  | error e => exact error (first e rfl)
  | ok a => exact next a

end FailsConfigured

theorem Path.parse_failsConfigured (text : String) : FailsConfigured (Path.parse text) := by
  rw [Path.parse]
  split
  · exact .error rfl
  · split
    · exact .error rfl
    · exact .ok _

theorem Path.member_failsConfigured (text : String) : FailsConfigured (Path.member text) := by
  refine .bind (Path.parse_failsConfigured text) fun p => ?_
  split
  · exact .ok p
  · exact .error rfl

namespace Model

theorem shape_failsConfigured (m : Model) (id : String) : FailsConfigured (m.shape id) := by
  rw [shape]
  split
  · exact .ok _
  · exact .error rfl

theorem kindOf_failsConfigured (m : Model) (id : String) : FailsConfigured (m.kindOf id) := by
  rw [kindOf]
  split
  · exact .ok _
  · split
    · exact .ok _
    · exact .error rfl

theorem walk_failsConfigured (m : Model) (path : Path) (segments : List String) (id : String) :
    FailsConfigured (m.walk path segments id) := by
  induction segments generalizing id with
  | nil => exact .ok id
  | cons segment rest ih =>
    refine .bind (m.shape_failsConfigured id) fun s => ?_
    split
    · exact .error rfl
    · split
      · exact .error rfl
      · exact ih _

theorem expectKind_failsConfigured (m : Model) (root : String) (path : Path)
    (allowed : List ShapeKind) : FailsConfigured (m.expectKind root path allowed) := by
  refine .bind (m.walk_failsConfigured path _ root) fun target => ?_
  refine .bind (m.kindOf_failsConfigured target) fun kind => ?_
  split
  · exact .ok _
  · exact .error rfl

theorem optionalPath_failsConfigured (m : Model) {read : String → Except Error Path}
    (readable : ∀ text, FailsConfigured (read text)) (root : String) (allowed : List ShapeKind)
    (text : Option String) : FailsConfigured (m.optionalPath read root allowed text) := by
  cases text with
  | none => exact .ok none
  | some text =>
    refine .bind (readable text) fun path => ?_
    exact .bind (m.expectKind_failsConfigured root path allowed) fun _ => .ok _

theorem orFail_failsConfigured {α : Type} {value : Option α} {e : Error}
    (h : e.isConfiguration = true) : FailsConfigured (orFail value e) := by
  cases value with
  | none => exact .error h
  | some a => exact .ok a

theorem findOperation_failsConfigured (m : Model) (name : String) :
    FailsConfigured (m.findOperation name) := by
  rw [findOperation]
  split
  · split
    · exact .ok _
    · exact .error rfl
    · exact .error rfl
  · split
    · exact .error rfl
    · exact .ok _
    · exact .error rfl

theorem paginatedOperations_failsConfigured (m : Model) : FailsConfigured m.paginatedOperations := by
  intro e failed
  rw [(paginatedOperations_eq_error.1 failed).1]
  rfl

theorem paginatedTrait_failsConfigured (m : Model) (name : String) :
    FailsConfigured (m.paginatedTrait name) := by
  refine .bind (m.findOperation_failsConfigured name) fun id => ?_
  refine .bind m.paginatedOperations_failsConfigured fun entries => ?_
  split
  · exact .ok _
  · exact .error rfl

theorem make_failsConfigured (name : String) (inputToken outputToken : Path) :
    FailsConfigured (PagedOperation.make name inputToken outputToken) := by
  rw [PagedOperation.make]
  split
  · exact .ok _
  · exact .error rfl

theorem resolve_failsConfigured (m : Model) (name : String) (behavior : EndBehavior) :
    FailsConfigured (m.resolve name behavior) := by
  refine .bind (m.findOperation_failsConfigured name) fun id => ?_
  refine .bind (m.shape_failsConfigured id) fun s => ?_
  split
  case h_2 => exact .error rfl
  refine .bind (.ok _) fun shape => ?_
  refine .bind (m.paginatedTrait_failsConfigured id) fun trait => ?_
  refine .bind (orFail_failsConfigured rfl) fun input => ?_
  refine .bind (orFail_failsConfigured rfl) fun output => ?_
  refine .bind (orFail_failsConfigured rfl) fun text => ?_
  refine .bind (Path.member_failsConfigured text) fun inputToken => ?_
  refine .bind (m.expectKind_failsConfigured _ _ _) fun _ => ?_
  refine .bind (orFail_failsConfigured rfl) fun text => ?_
  refine .bind (Path.parse_failsConfigured text) fun outputToken => ?_
  refine .bind (m.expectKind_failsConfigured _ _ _) fun _ => ?_
  refine .bind (make_failsConfigured _ _ _) fun made => ?_
  refine .bind (m.optionalPath_failsConfigured Path.parse_failsConfigured _ _ _) fun items => ?_
  refine .bind (m.optionalPath_failsConfigured Path.member_failsConfigured _ _ _) fun size => ?_
  exact .bind (m.optionalPath_failsConfigured Path.parse_failsConfigured _ _ _) fun _ => .ok _

end Model

end Pagewise
