import ConnPool.Proofs.Pool.Projection
import ConnPool.Proofs.Simulation.Events

/-!
# Acts

An event leads from one world to another, and that is all one can tell from it. To speak of all
attempts to open a connection, say, one has to know what has been done. So this file has **acts**
(`ConnPool.World.Act`): an act is a command, and what comes of it depends on nothing but the world
in which it is done. A list of acts can be done again (`ConnPool.World.replay`), and goes through
the same scenes then (`ConnPool.World.scenes`).

What a pool does to a world is written down by its driver (`ConnPool.World.recorder`). A pool does
not notice, and if the acts that have been written down are done again, they lead where the pool
has led (`ConnPool.World.follows_recorder`).
-/

namespace ConnPool

open Relation (ReflTransGen)

/-- What a backend can be told. -/
inductive Order where
  /-- Refuse the next so many connect attempts. -/
  | refuseNext (n : Nat)
  /-- Refuse every connect attempt, or no longer do so. -/
  | refuseAll (on : Bool)
  /-- Report every close as failed, or no longer do so. -/
  | failClose (on : Bool)
  /-- Let every rollback fail, or no longer do so. -/
  | failRollback (on : Bool)
  /-- Deliver new connections in another condition. -/
  | birth (condition : Birth)

namespace Order

/-- A backend does as it is told. -/
def apply (order : Order) (b : Backend) : Backend :=
  match order with
  | .refuseNext n => { b with refusals := n }
  | .refuseAll on => { b with refuseAll := on }
  | .failClose on => { b with failClose := on }
  | .failRollback on => { b with failRollback := on }
  | .birth condition => { b with birth := condition }

/-- No order has an effect on what a backend has counted. -/
theorem keeps (order : Order) : Backend.Keeps order.apply := by
  cases order <;> exact ⟨fun _ => rfl, fun _ => rfl, fun _ => rfl, fun _ => rfl, fun _ => rfl⟩

end Order

namespace World

/-! ### Acts -/

/-- **An act**: something that can be done to a world. -/
inductive Act where
  /-- Attempt to open a connection. -/
  | connect (b : Nat)
  /-- Close a connection. -/
  | close (c : SimId)
  /-- Roll a connection back. -/
  | rollback (c : SimId)
  /-- Read a clock. -/
  | read (clock : ClockKind)
  /-- Move the manual clock. -/
  | advance (span : Duration)
  /-- Bring backends into being. -/
  | mention (b : Nat)
  /-- Change a connection, or tell it to behave differently. -/
  | adjust (c : SimId) (f : SimConn → SimConn) (hf : SimConn.Keeps f)
  /-- Tell a backend to behave differently. -/
  | instruct (b : Nat) (order : Order)

/-- Does an act, whatever comes of it. -/
def act (a : Act) (w : World) : World :=
  match a with
  | .connect b => (w.connect b).2
  | .close c => (w.close c).2
  | .rollback c => (w.rollback c).2
  | .read clock => (w.now clock).2
  | .advance span => w.advance span
  | .mention b => w.mention b
  | .adjust c f _ => w.updateConn c f
  | .instruct b order => w.updateBackend b order.apply

/-- **Every act is an event.** -/
theorem event_act (a : Act) (w : World) : Event (fun _ _ => True) w (w.act a) := by
  cases a with
  | connect b => exact .connect b w
  | close c => exact .close trivial
  | rollback c => exact .rollback c w
  | read clock => exact .read clock w
  | advance span => exact .advance span w
  | mention b => exact .mention b w
  | adjust c f hf => exact .adjust c hf w
  | instruct b order => exact .instruct b order.keeps w

/-- **Does one act after the other.** -/
def replay (acts : List Act) (w : World) : World := acts.foldl (fun w a => w.act a) w

@[simp] theorem replay_nil (w : World) : w.replay [] = w := rfl

@[simp] theorem replay_cons (a : Act) (acts : List Act) (w : World) :
    w.replay (a :: acts) = (w.act a).replay acts := rfl

@[simp] theorem replay_append (acts acts' : List Act) (w : World) :
    w.replay (acts ++ acts') = (w.replay acts).replay acts' := List.foldl_append

theorem events_replay (acts : List Act) (w : World) :
    ReflTransGen (Event fun _ _ => True) w (w.replay acts) := by
  induction acts generalizing w with
  | nil => exact .refl
  | cons a acts ih => exact .head (event_act a w) (ih (w.act a))

/-! ### Scenes -/

/-- **A scene**: an act, and the world in which it is done. -/
structure Scene where
  world : World
  act : Act

/-- The world after a scene. -/
def Scene.after (x : Scene) : World := x.world.act x.act

/-- The scenes that acts go through from a world on, in their order. -/
def scenes : List Act → World → List Scene
  | [], _ => []
  | a :: acts, w => ⟨w, a⟩ :: scenes acts (w.act a)

section Read

variable {α : Type} {acts : List Act} {w : World}

/-- **What every scene adds to a list**, all of them do. -/
theorem read_replay_of_append (read : World → List α) {f : Scene → Option α}
    (hf : ∀ x, read x.after = read x.world ++ (f x).toList) :
    read (w.replay acts) = read w ++ (scenes acts w).filterMap f := by
  induction acts generalizing w with
  | nil => exact (List.append_nil _).symm
  | cons a acts ih =>
    have hfirst : read (w.act a) = read w ++ (f ⟨w, a⟩).toList := hf ⟨w, a⟩
    rw [replay_cons, ih, hfirst, scenes, List.append_assoc, List.filterMap_cons]
    cases f ⟨w, a⟩ <;> rfl

/-- **What every scene adds to a number**, all of them do. -/
theorem read_replay_of_add (read : World → Nat) {f : Scene → Option α}
    (hf : ∀ x, read x.after = read x.world + (f x).toList.length) :
    read (w.replay acts) = read w + ((scenes acts w).filterMap f).length := by
  induction acts generalizing w with
  | nil => rfl
  | cons a acts ih =>
    have hfirst : read (w.act a) = read w + (f ⟨w, a⟩).toList.length := hf ⟨w, a⟩
    rw [replay_cons, ih, hfirst, scenes, Nat.add_assoc, List.filterMap_cons]
    cases f ⟨w, a⟩ with
    | none => exact congrArg (read w + ·) (Nat.zero_add _)
    | some _ => exact congrArg (read w + ·) (Nat.add_comm _ _)

end Read

/-! ### What pools do -/

/-- **A driver that writes down its acts**: the same driver, except that beside the world it keeps
a list of them, the latest last. To look at a connection is no act. -/
def recorder (b : Nat) (clock : ClockKind) : Driver (World × List Act) SimId Fault where
  connect s := match s.1.connect b with
    | (result, w) => (result, w, s.2 ++ [.connect b])
  close c s := match s.1.close c with
    | (result, w) => (result, w, s.2 ++ [.close c])
  isClosed c s := (s.1.isClosed c, s)
  status c s := (s.1.status c, s)
  rollback c s := match s.1.rollback c with
    | (result, w) => (result, w, s.2 ++ [.rollback c])
  now s := match s.1.now clock with
    | (reading, w) => (reading, w, s.2 ++ [.read clock])

theorem projects_recorder (b : Nat) (clock : ClockKind) :
    (recorder b clock).Projects Prod.fst (driver b clock) where
  connect _ := rfl
  close _ _ := rfl
  isClosed _ _ := rfl
  status _ _ := rfl
  rollback _ _ := rfl
  now _ := rfl

/-- **Acts have been written down, and they are what has been done.** Nobody has told a backend
anything. -/
def Records (s s' : World × List Act) : Prop :=
  ∃ acts, s'.2 = s.2 ++ acts ∧ s'.1 = s.1.replay acts ∧ ∀ b order, .instruct b order ∉ acts

theorem Records.refl (s : World × List Act) : Records s s :=
  ⟨[], (List.append_nil _).symm, rfl, fun _ _ => List.not_mem_nil⟩

theorem Records.trans {s s' s'' : World × List Act} (h : Records s s') (h' : Records s' s'') :
    Records s s'' := by
  obtain ⟨acts, hwritten, hdone, hnone⟩ := h
  obtain ⟨acts', hwritten', hdone', hnone'⟩ := h'
  refine ⟨acts ++ acts', ?_, ?_, fun b order hmem => ?_⟩
  · rw [hwritten', hwritten, List.append_assoc]
  · rw [hdone', hdone, replay_append]
  · rcases List.mem_append.mp hmem with hmem | hmem
    · exact hnone b order hmem
    · exact hnone' b order hmem

theorem Records.single {w : World} {log : List Act} {a : Act}
    (ha : ∀ b order, a ≠ .instruct b order) : Records (w, log) (w.act a, log ++ [a]) :=
  ⟨[a], rfl, rfl, fun b order hmem => ha b order (List.mem_singleton.mp hmem).symm⟩

/-- **Whatever a pool does, is written down.** -/
theorem follows_recorder (b : Nat) (clock : ClockKind) : (recorder b clock).Follows Records := by
  refine Driver.Along.follows (R := Records) ?_ fun h => ?_
  · exact
      { refl := .refl
        trans := .trans
        close := fun h => by cases h; exact .single nofun
        isClosed := fun h => by cases h; exact .refl _
        status := fun h => by cases h; exact .refl _
        rollback := fun h => by cases h; exact .single nofun
        now := fun h => by cases h; exact .single nofun }
  · cases h
    exact .single nofun

end World

end ConnPool
