import Conveyor.Log.Event

/-!
Activities: what agents and chains do when they are called. An activity reads and changes a world that
all agents share, leaves events in the log and ends in a value. The log can only be written: no activity
depends on what was logged before it. Activities are composed in order, and the laws of composition are
those of a monad. One activity runs at a time and to its end: no call is interleaved with another, and
none is given up from outside.
-/

namespace Conveyor

/-- How an activity ended: its value, the world it leaves, and what it logged. -/
structure Report (ω β : Type) where
  value : β
  world : ω
  log : List LogEvent
  deriving DecidableEq, Repr

/-- Something done in a world. -/
def Activity (ω β : Type) := ω → Report ω β

namespace Activity

variable {ω β γ : Type}

/-- Does an activity in a world. -/
def run (activity : Activity ω β) (world : ω) : Report ω β := activity world

/-- Does nothing and ends in a value. -/
protected def pure (value : β) : Activity ω β := fun world => ⟨value, world, []⟩

/-- Does one activity and then the one chosen by its value. -/
protected def bind (first : Activity ω β) (next : β → Activity ω γ) : Activity ω γ := fun world =>
  let done := first world
  let after := next done.value done.world
  ⟨after.value, after.world, done.log ++ after.log⟩

instance : Monad (Activity ω) where
  pure := Activity.pure
  bind := Activity.bind

/-- Leaves an event in the log. -/
def log (event : LogEvent) : Activity ω Unit := fun world => ⟨(), world, [event]⟩

/-- Looks at the world. -/
def look : Activity ω ω := fun world => ⟨world, world, []⟩

/-- Changes the world. -/
def change (f : ω → ω) : Activity ω Unit := fun world => ⟨(), f world, []⟩

@[ext] theorem ext {a b : Activity ω β} (same : ∀ world, a.run world = b.run world) : a = b :=
  funext same

@[simp] theorem run_pure (value : β) (world : ω) :
    (pure value : Activity ω β).run world = ⟨value, world, []⟩ := rfl

@[simp] theorem run_bind (first : Activity ω β) (next : β → Activity ω γ) (world : ω) :
    (first >>= next).run world =
      ⟨((next (first.run world).value).run (first.run world).world).value,
        ((next (first.run world).value).run (first.run world).world).world,
        (first.run world).log ++ ((next (first.run world).value).run (first.run world).world).log⟩ :=
  rfl

@[simp] theorem run_map (f : β → γ) (activity : Activity ω β) (world : ω) :
    (f <$> activity).run world =
      ⟨f (activity.run world).value, (activity.run world).world, (activity.run world).log⟩ := by
  simp [Functor.map, run, Activity.bind, Activity.pure]

@[simp] theorem run_log (event : LogEvent) (world : ω) :
    (log event : Activity ω Unit).run world = ⟨(), world, [event]⟩ := rfl

@[simp] theorem run_look (world : ω) : (look : Activity ω ω).run world = ⟨world, world, []⟩ := rfl

@[simp] theorem run_change (f : ω → ω) (world : ω) :
    (change f).run world = ⟨(), f world, []⟩ := rfl

/-- What follows an activity matters only at the values that the activity ends in. -/
theorem bind_congr {first : Activity ω β} {next other : β → Activity ω γ}
    (same : ∀ world, next (first.run world).value = other (first.run world).value) :
    first >>= next = first >>= other := by
  ext world
  rw [run_bind, run_bind, same world]

/-- Activities compose as a monad: doing nothing changes nothing, and grouping does not matter. -/
instance : LawfulMonad (Activity ω) :=
  LawfulMonad.mk' (Activity ω)
    (fun activity => ext fun world => by simp [Functor.map, run, Activity.bind, Activity.pure])
    (fun value next => ext fun world => by simp)
    (fun first second third => ext fun world => by simp)

end Activity

end Conveyor
