import Mathlib.Logic.Relation
import MarketData.Proofs.Gate.Course
import MarketData.Proofs.Gate.Dispatch

/-! A gate between threads. What the gate holds is guarded by a lock, so a thread calls and waits
for the lock, and gives it back when its call is over; a dispatch sleeps and runs its batch without
giving it back. Each step of one thread is a `Traffic.Step`, threads interleave in any way, and the
clock may go on between any two steps; a thread that sleeps goes on no earlier than it asked for. -/

namespace MarketData

abbrev Thread := Nat

/-- What may be called on a gate. -/
inductive GateCall
  | wait
  | fetch (urls : UrlSet) (maxConnections : Nat)
  | fetchOne (url : Url)
  | setPolicy (policy : Policy)
  | policy

namespace GateCall

/-- The URLs of the batch that a call runs. -/
def urls : GateCall → List Url
  | fetch urls _ => urls.items
  | fetchOne url => [url]
  | _ => []

def maxConnections : GateCall → Nat
  | fetch _ maxConnections => maxConnections
  | _ => 1

/-- Dispatches are kept apart by the gate. -/
def isDispatch : GateCall → Bool
  | wait | fetch .. | fetchOne _ => true
  | setPolicy _ | policy => false

/-- The policy once these calls are over: the last one that was set, if any. -/
def policyAfter (initial : Policy) (calls : List GateCall) : Policy :=
  calls.foldl (fun policy call =>
    match call with
    | .setPolicy policy => policy
    | _ => policy) initial

theorem policyAfter_setPolicy (initial policy : Policy) (calls : List GateCall) :
    policyAfter initial (calls ++ [.setPolicy policy]) = policy := by
  rw [policyAfter, List.foldl_append]
  rfl

theorem policyAfter_other {initial : Policy} {calls : List GateCall} {call : GateCall}
    (h : ∀ policy, call ≠ .setPolicy policy) :
    policyAfter initial (calls ++ [call]) = policyAfter initial calls := by
  rw [policyAfter, List.foldl_append]
  cases call with
  | setPolicy policy => exact absurd rfl (h policy)
  | _ => rfl

theorem ne_setPolicy_of_isDispatch {call : GateCall} (h : call.isDispatch = true)
    (policy : Policy) : call ≠ .setPolicy policy := by
  rintro rfl
  contradiction

end GateCall

/-- A passage through the gate. -/
structure Dispatch where
  call : GateCall
  /-- The calls that took the lock before this one. -/
  before : List GateCall
  /-- The policy when it starts. -/
  policy : Policy
  handles : List Handle
  start : Instant
  course : Course
  /-- The instant that the gate notes, once it is over. -/
  recorded : Option Instant := none

/-- Where a thread is in its call. -/
inductive Stage
  | outside
  /-- Waits for the lock. -/
  | calling (call : GateCall)
  | locked (call : GateCall)
  /-- Sleeps until `wake`, or longer. -/
  | cooling (call : GateCall) (wake : Instant)
  | running (d : Dispatch)

namespace Stage

/-- Holds the lock. -/
def isInside : Stage → Bool
  | outside | calling _ => false
  | locked _ | cooling .. | running _ => true

def dispatch? : Stage → Option Dispatch
  | running d => some d
  | _ => none

end Stage

structure Traffic where
  gate : Gate
  clock : Instant
  /-- The thread that has the lock. -/
  holder : Option Thread
  stage : Thread → Stage
  /-- The calls that took the lock, in this order. -/
  entered : List GateCall
  /-- The dispatches that are over, in this order. -/
  dispatches : List Dispatch

namespace Traffic

/-- Nobody has come to the gate. -/
def initial (policy : Policy) (clock : Instant) : Traffic :=
  ⟨⟨policy, none⟩, clock, none, fun _ => .outside, [], []⟩

def put (t : Thread) (stage : Stage) (s : Traffic) : Traffic :=
  { s with stage := fun t' => if t' = t then stage else s.stage t' }

@[simp] theorem put_stage_self (t : Thread) (stage : Stage) (s : Traffic) :
    (s.put t stage).stage t = stage := if_pos rfl

theorem put_stage_of_ne {t t' : Thread} (h : t' ≠ t) (stage : Stage) (s : Traffic) :
    (s.put t stage).stage t' = s.stage t' := if_neg h

/-- Takes the lock. -/
def enter (t : Thread) (call : GateCall) (s : Traffic) : Traffic :=
  { s.put t (.locked call) with holder := some t, entered := s.entered ++ [call] }

/-- Gives the lock back. -/
def leave (t : Thread) (s : Traffic) : Traffic := { s.put t .outside with holder := none }

/-- The dispatch that starts now, with the batch for which these handles were got. -/
def dispatch (call : GateCall) (handles : List Handle) (s : Traffic) : Dispatch where
  call
  before := s.entered.dropLast
  policy := s.gate.policy
  handles
  start := s.clock
  course := .start call.maxConnections handles s.clock

/-- A step of one thread, or of the clock. A dispatch reads the policy of the gate when it starts
and again at each turn of its loop. -/
inductive Step (s : Traffic) : Traffic → Prop
  | pass : s.clock ≤ now → Step s { s with clock := now }
  | call : s.stage t = .outside → Step s (s.put t (.calling call))
  | lock : s.holder = none → s.stage t = .calling call → Step s (s.enter t call)
  | read : s.stage t = .locked .policy → Step s (s.leave t)
  | set : s.stage t = .locked (.setPolicy policy) →
    Step s { s.leave t with gate := s.gate.setPolicy policy }
  | cool : s.stage t = .locked call → call.isDispatch = true →
    Step s (s.put t (.cooling call (s.gate.opensAt s.clock)))
  | start : s.stage t = .cooling call wake → wake ≤ s.clock → Lent call.urls handles →
    Step s (s.put t (.running (s.dispatch call handles)))
  | turn : s.stage t = .running d →
    d.course.Turn s.gate.policy d.call.maxConnections s.clock course →
    Step s (s.put t (.running { d with course }))
  | finish : s.stage t = .running d → d.course.loop.active = [] →
    Step s { s.leave t with
      gate := s.gate.stamp s.clock
      dispatches := s.dispatches ++ [{ d with recorded := some s.clock }] }

/-- A state that threads may come to at a gate made with this policy. -/
def Reachable (policy : Policy) (s : Traffic) : Prop :=
  ∃ clock, Relation.ReflTransGen Step (initial policy clock) s

/-- All dispatches that have started, in this order. -/
def timeline (s : Traffic) : List Dispatch :=
  s.dispatches ++ (s.holder.bind fun t => (s.stage t).dispatch?).toList

end Traffic

/-! ## One thread alone -/

namespace Traffic

open Relation

variable {s : Traffic} {t : Thread} {call : GateCall} {stage : Stage}

theorem put_put (stage' : Stage) : (s.put t stage).put t stage' = s.put t stage' := by
  unfold put
  congr 1
  funext t'
  split <;> simp [*]

theorem put_eq_self (h : s.stage t = stage) : s.put t stage = s := by
  obtain ⟨gate, clock, holder, stages, entered, dispatches⟩ := s
  unfold put
  congr 1
  funext t'
  split
  · rename_i heq
    exact heq ▸ h.symm
  · rfl

/-- The state while nobody but this thread, at its call, has done anything. -/
def holding (t : Thread) (call : GateCall) (clock : Instant) (stage : Stage) (s : Traffic) :
    Traffic :=
  put t stage { s with clock, holder := some t, entered := s.entered ++ [call] }

theorem holding_put (clock : Instant) (stage' : Stage) :
    (s.holding t call clock stage).put t stage' = s.holding t call clock stage' := put_put ..

theorem leave_holding (hfree : s.holder = none) (hout : s.stage t = .outside) (clock : Instant) :
    (s.holding t call clock stage).leave t =
      { s with clock, entered := s.entered ++ [call] } := by
  have hsame : s.holding t call clock .outside =
      { s with clock, holder := some t, entered := s.entered ++ [call] } := put_eq_self hout
  rw [leave, holding_put, hsame, hfree]

/-- A call comes to the lock. -/
theorem steps_enter (hfree : s.holder = none) (hout : s.stage t = .outside) (call : GateCall) :
    ReflTransGen Step s (s.holding t call s.clock (.locked call)) := by
  have hcall : Step s (s.put t (.calling call)) := .call hout
  have hlock := Step.lock (s := s.put t (.calling call)) hfree (put_stage_self ..)
  have henter : (s.put t (.calling call)).enter t call =
      s.holding t call s.clock (.locked call) := by
    rw [enter, put_put]
    rfl
  exact (ReflTransGen.single hcall).tail (henter ▸ hlock)

/-- The loop of a batch takes its turns. -/
theorem steps_turns {d : Dispatch} {begun now : Instant} {course : Course}
    (hcourse : d.course.Turns s.gate.policy d.call.maxConnections begun now course) :
    ReflTransGen Step (s.holding t call begun (.running d))
      (s.holding t call now (.running { d with course })) := by
  induction hcourse with
  | refl => exact .refl
  | @tail now course now' course' _ hle hturn ih =>
    have hpass := Step.pass (s := s.holding t call now (.running { d with course })) hle
    have hland := Step.turn (s := s.holding t call now' (.running { d with course }))
      (put_stage_self ..) hturn
    rw [holding_put] at hland
    exact (ih.tail hpass).tail hland

/-- A dispatch that nobody disturbs may start as soon as the gate opens, and leaves the gate as it
was but for the instant at which it is over. -/
theorem steps_dispatch (hfree : s.holder = none) (hout : s.stage t = .outside)
    (hcall : call.isDispatch = true) {handles : List Handle} (hlent : Lent call.urls handles)
    {begun now finished : Instant} {course : Course} (hopen : s.gate.opensAt s.clock ≤ begun)
    (hcourse : (Course.start call.maxConnections handles begun).Turns s.gate.policy
      call.maxConnections begun now course)
    (hrest : course.loop.active = []) (hle : now ≤ finished) :
    ReflTransGen Step s { s with
      gate := s.gate.stamp finished
      clock := finished
      entered := s.entered ++ [call]
      dispatches := s.dispatches ++ [⟨call, s.entered, s.gate.policy, handles, begun, course,
        some finished⟩] } := by
  let d (course : Course) : Dispatch :=
    ⟨call, s.entered, s.gate.policy, handles, begun, course, none⟩
  let wake := s.gate.opensAt s.clock
  have hcool : Step (s.holding t call s.clock (.locked call))
      (s.holding t call s.clock (.cooling call wake)) := by
    have hstep := Step.cool (s := s.holding t call s.clock (.locked call)) (put_stage_self ..) hcall
    rwa [holding_put] at hstep
  have hsleep : Step (s.holding t call s.clock (.cooling call wake))
      (s.holding t call begun (.cooling call wake)) :=
    .pass ((s.gate.self_le_opensAt s.clock).trans hopen)
  have hstart : Step (s.holding t call begun (.cooling call wake))
      (s.holding t call begun (.running (d (.start call.maxConnections handles begun)))) := by
    have hstep := Step.start (s := s.holding t call begun (.cooling call wake)) (put_stage_self ..)
      hopen hlent
    have hdispatch : (s.holding t call begun (.cooling call wake)).dispatch call handles =
        d (.start call.maxConnections handles begun) := by
      simp [dispatch, holding, put, d]
    rwa [holding_put, hdispatch] at hstep
  have hturns : ReflTransGen Step
      (s.holding t call begun (.running (d (.start call.maxConnections handles begun))))
      (s.holding t call now (.running (d course))) := steps_turns hcourse
  have hend : Step (s.holding t call now (.running (d course)))
      (s.holding t call finished (.running (d course))) := .pass hle
  have hfinish := Step.finish (s := s.holding t call finished (.running (d course)))
    (put_stage_self ..) hrest
  rw [leave_holding hfree hout] at hfinish
  exact ((((((steps_enter hfree hout call).tail hcool).tail hsleep).tail hstart).trans
    hturns).tail hend).tail hfinish

/-- The gate as it runs is that of one thread: where `Gate.dispatch` leads, this thread comes. -/
theorem steps_gate_dispatch {α : Type} (hfree : s.holder = none) (hout : s.stage t = .outside)
    (hcall : call.isDispatch = true) (batch : Policy → Instant → α × Instant)
    (hbatch : ∀ policy start, start ≤ (batch policy start).2) :
    ∃ s', ReflTransGen Step s s' ∧ s'.gate = (s.gate.dispatch s.clock batch).2.2 ∧
      s'.clock = (s.gate.dispatch s.clock batch).2.1 := by
  have hrest : (Course.start call.maxConnections [] (s.gate.opensAt s.clock)).loop.active = [] := by
    simp [Course.start, Course.resume, Drive.start, Drive.refill]
  exact ⟨_, steps_dispatch hfree hout hcall .nil (Nat.le_refl _) .refl hrest
    (hbatch s.gate.policy _), rfl, rfl⟩

theorem steps_setPolicy (hfree : s.holder = none) (hout : s.stage t = .outside)
    (policy : Policy) :
    ReflTransGen Step s { s with
      gate := s.gate.setPolicy policy
      entered := s.entered ++ [.setPolicy policy] } := by
  have hset := Step.set
    (s := s.holding t (.setPolicy policy) s.clock (.locked (.setPolicy policy)))
    (put_stage_self ..)
  rw [leave_holding hfree hout] at hset
  exact (steps_enter hfree hout _).tail hset

end Traffic

end MarketData
