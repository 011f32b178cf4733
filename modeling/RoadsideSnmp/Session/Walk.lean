import RoadsideSnmp.Session.Query

/-! Walking a subtree, one binding after another. The walk ends behind the subtree, at the end of
what the agent has, or with the first failure; a name that does not come after the one before is
a failure, so no agent can keep a walk going for ever. -/
namespace RoadsideSnmp

structure Walk where
  base : Oid
  current : Oid
  last : Option Oid
  ended : Bool
  deriving DecidableEq, Repr

abbrev Walk.Step := Except Failure (Option Binding) × Walk

namespace Walk

def start (base : Oid) : Walk := ⟨base, base, none, false⟩

def stop (walk : Walk) (result : Except Failure (Option Binding)) : Step :=
  (result, { walk with ended := true })

def accept (walk : Walk) (binding : Binding) : Step :=
  if binding.type = .endOfMibView || !binding.name.within walk.base then walk.stop (.ok none)
  else
    match walk.last.filter fun last => !last.before binding.name with
    | some last => { walk with last := none }.stop (.error (.notIncreasing last binding.name))
    | none => (.ok (some binding),
        { walk with current := binding.name, last := some binding.name })

/-- An agent that has no further name may say so with an error. -/
def answer (walk : Walk) : Except Failure Binding → Step
  | .ok binding => walk.accept binding
  | .error failure =>
      match failure with
      | .agent ⟨.noSuchName, _, _⟩ => walk.stop (.ok none)
      | other => walk.stop (.error other)

/-- The next binding; a walk that has ended asks nothing more. -/
def next (config : Config) (walk : Walk) : Dialogue Step :=
  if walk.ended then .answer (.ok none, walk)
  else (Query.getNext config walk.current).map walk.answer

def collect (config : Config) : (room : Nat) → Walk → (found : List Binding) →
    Dialogue (Except Failure (List Binding))
  | 0, _, found => .answer (.ok found.reverse)
  | room + 1, walk, found =>
      .ask (.ofNames config.version config.community .getNextRequest [walk.current]) fun reply =>
        match walk.answer (Query.single walk.current (reply.map Message.bindings)) with
        | (.ok (some binding), walk) => collect config room walk (binding :: found)
        | (.ok none, _) => .answer (.ok found.reverse)
        | (.error failure, _) => .answer (.error failure)

/-- More than there are names that a message can carry, and a walk gives none of them twice. -/
def room : Nat := Nat.pow 2 (32 * (Oid.maxArcs + 1))

def all (config : Config) (base : Oid) : Dialogue (Except Failure (List Binding)) :=
  collect config room (start base) []

end Walk
end RoadsideSnmp
