import Mathlib.Data.Finset.Erase
import Mathlib.Data.Finset.Insert
import Mathlib.Data.List.Induction
import PgAnalytics.Runs

/-! Callbacks that are called once in a transaction. A callback is registered unless its
id is in the cache of its event; the caches outlive the transaction, and only callbacks
that run take their ids out again. -/

namespace PgAnalytics.Transactions
open Runs

inductive Event where
  | preCommit
  | commit
  | abort
  deriving DecidableEq, Repr

/-- The ids that are taken, for each event. -/
abbrev Caches := Event → Finset String

def Caches.empty : Caches := fun _ => ∅

structure Backend where
  caches : Caches
  registered : List (Event × String)

def callOnce (event : Event) (id : String) (b : Backend) : Backend :=
  if id ∈ b.caches event then b
  else
    { caches := Function.update b.caches event (insert id (b.caches event))
      registered := b.registered ++ [(event, id)] }

def callOnceOnPrecommit (id : String) : Backend → Backend := callOnce .preCommit id

def callOnceOnCommit (id : String) : Backend → Backend := callOnce .commit id

def callOnceOnAbort (id : String) : Backend → Backend := callOnce .abort id

def clearCommitAbortCaches (id : String) (caches : Caches) : Caches :=
  fun event => (caches event).erase id

/-- What a callback does to the caches before it calls the function it was given. -/
def clearCaches (caches : Caches) : Event × String → Caches
  | (.preCommit, id) => Function.update caches .preCommit ((caches .preCommit).erase id)
  | (.commit, id) => clearCommitAbortCaches id caches
  | (.abort, id) => clearCommitAbortCaches id caches

inductive Outcome where
  | committed
  | aborted
  | abortedAfterPreCommit
  deriving DecidableEq, Repr

def Outcome.events : Outcome → List Event
  | .committed => [.preCommit, .commit]
  | .aborted => [.abort]
  | .abortedAfterPreCommit => [.preCommit, .abort]

structure Transaction where
  requests : List (Event × String)
  outcome : Outcome
  deriving DecidableEq, Repr

def request (b : Backend) : Event × String → Backend
  | (.preCommit, id) => callOnceOnPrecommit id b
  | (.commit, id) => callOnceOnCommit id b
  | (.abort, id) => callOnceOnAbort id b

def requestAll (caches : Caches) (requests : List (Event × String)) : Backend :=
  requests.foldl request ⟨caches, []⟩

def fired (registered : List (Event × String)) (outcome : Outcome) : List (Event × String) :=
  outcome.events.flatMap fun event => registered.filter (·.1 = event)

def backend : Machine Caches Transaction (List (Event × String))
  | caches, t =>
    let b := requestAll caches t.requests
    let ran := fired b.registered t.outcome
    some (ran.foldl clearCaches b.caches, ran)

/-- A callback runs once if it was requested and its event occurs, and otherwise never. -/
def Delivered (_ : Caches) (t : Transaction) (ran : List (Event × String)) : Prop :=
  ∀ event id, ran.count (event, id) =
    if (event, id) ∈ t.requests ∧ event ∈ t.outcome.events then 1 else 0

/-- No callback that is due is requested under an id that an earlier transaction left in
its cache. -/
def Fresh (caches : Caches) (t : Transaction) : Prop :=
  ∀ event id, (event, id) ∈ t.requests → event ∈ t.outcome.events → id ∉ caches event

theorem request_eq (b : Backend) (event : Event) (id : String) :
    request b (event, id) = callOnce event id b := by
  cases event <;> rfl

theorem mem_callOnce {b : Backend} {event other : Event} {id name : String} :
    name ∈ (callOnce event id b).caches other ↔
      name ∈ b.caches other ∨ (other, name) = (event, id) := by
  unfold callOnce
  split
  · rename_i taken
    refine (or_iff_left_of_imp fun same => ?_).symm
    cases same
    exact taken
  · by_cases same : other = event
    · subst same
      simp [or_comm]
    · simp [same]

theorem count_callOnce {b : Backend} {event other : Event} {id name : String} :
    (callOnce event id b).registered.count (other, name) =
      b.registered.count (other, name) +
        if (other, name) = (event, id) ∧ id ∉ b.caches event then 1 else 0 := by
  unfold callOnce
  split
  · rename_i taken
    simp [taken]
  · rename_i free
    by_cases same : (other, name) = (event, id)
    · simp [same, free]
    · simp [same, Ne.symm same]

theorem requestAll_spec (caches : Caches) (requests : List (Event × String)) :
    (∀ event id, id ∈ (requestAll caches requests).caches event ↔
      id ∈ caches event ∨ (event, id) ∈ requests) ∧
    ∀ event id, (requestAll caches requests).registered.count (event, id) =
      if (event, id) ∈ requests ∧ id ∉ caches event then 1 else 0 := by
  induction requests using List.reverseRecOn with
  | nil => simp [requestAll]
  | append_singleton requests last ih =>
    obtain ⟨held, counted⟩ := ih
    obtain ⟨event, id⟩ := last
    rw [requestAll, List.foldl_concat, ← requestAll, request_eq]
    constructor
    · intro other name
      rw [mem_callOnce, held, List.mem_append, List.mem_singleton, or_assoc]
    · intro other name
      rw [count_callOnce, counted]
      simp only [held]
      by_cases same : (other, name) = (event, id)
      · cases same
        by_cases there : id ∈ caches event <;> by_cases earlier : (event, id) ∈ requests <;>
          simp [there, earlier]
      · simp [same]

theorem count_fired (registered : List (Event × String)) (outcome : Outcome) (event : Event)
    (id : String) :
    (fired registered outcome).count (event, id) =
      if event ∈ outcome.events then registered.count (event, id) else 0 := by
  have one : ∀ other, (registered.filter (·.1 = other)).count (event, id) =
      if event = other then registered.count (event, id) else 0 := by
    intro other
    split
    · rename_i same
      exact List.count_filter (by simpa using same)
    · rename_i different
      exact List.count_eq_zero.mpr fun mem => different (by simpa using (List.mem_filter.mp mem).2)
  cases outcome <;> cases event <;> simp [fired, Outcome.events, one]

theorem delivered_iff_fresh {caches caches' : Caches} {t : Transaction}
    {ran : List (Event × String)} (step : backend caches t = some (caches', ran)) :
    Delivered caches t ran ↔ Fresh caches t := by
  cases step
  have counted : ∀ event id, (fired (requestAll caches t.requests).registered t.outcome).count
      (event, id) = if ((event, id) ∈ t.requests ∧ event ∈ t.outcome.events) ∧
        id ∉ caches event then 1 else 0 := by
    intro event id
    rw [count_fired, (requestAll_spec caches t.requests).2]
    by_cases due : event ∈ t.outcome.events <;> simp [due]
  refine forall₂_congr fun event id => ?_
  rw [counted]
  by_cases due : (event, id) ∈ t.requests ∧ event ∈ t.outcome.events
  · by_cases taken : id ∈ caches event <;> simp [due.1, due.2, taken]
  · simp only [due, false_and, if_false, true_iff]
    exact fun requested occurs => absurd ⟨requested, occurs⟩ due

/-- Over any sequence of transactions, callbacks are delivered in all of them exactly when
in each of them those that are due have their ids free. -/
theorem delivered_always_iff (caches : Caches) (transactions : List Transaction) :
    Always backend Delivered caches transactions ↔ Along backend Fresh caches transactions := by
  constructor
  · exact always_of_invariant (fun _ => True)
      (fun _ _ _ _ _ delivered step => ⟨trivial, (delivered_iff_fresh step).mp delivered⟩)
      trivial transactions
  · exact always_of_invariant (fun _ => True)
      (fun _ _ _ _ _ fresh step => ⟨trivial, (delivered_iff_fresh step).mpr fresh⟩)
      trivial transactions

theorem commit_callback_lost :
    ¬ Always backend Delivered Caches.empty
      [⟨[(.commit, "flush")], .aborted⟩, ⟨[(.commit, "flush")], .committed⟩] := by
  intro delivered
  obtain ⟨-, delivered⟩ := (always_cons rfl).mp delivered
  obtain ⟨now, -⟩ := (always_cons rfl).mp delivered
  exact absurd (now .commit "flush") (by decide)

def needsCommit (id : String) (b : Backend) : Bool := id ∈ b.caches .preCommit

/-- Every id that is requested has a callback that runs and takes it out of the cache it is
in: a commit or an abort callback, or its own at pre-commit. -/
def Settles (t : Transaction) : Prop :=
  ∀ event id, (event, id) ∈ t.requests → ∃ last ∈ t.outcome.events,
    (last, id) ∈ t.requests ∧ (last = .preCommit → event = .preCommit)

structure Clean (caches : Caches) (t : Transaction) (ran : List (Event × String)) : Prop where
  delivered : Delivered caches t ran
  pending : ∀ requests, requests <+: t.requests → ∀ id,
    needsCommit id (requestAll caches requests) ↔
      (.preCommit, id) ∈ (requestAll caches requests).registered
  nothingLeft : ran.foldl clearCaches (requestAll caches t.requests).caches = Caches.empty

theorem mem_clearCaches {caches : Caches} {callback : Event × String} {event : Event}
    {id : String} : id ∈ clearCaches caches callback event ↔ id ∈ caches event ∧
      ¬(callback.2 = id ∧ (callback.1 = .preCommit → event = .preCommit)) := by
  obtain ⟨ran, name⟩ := callback
  cases ran with
  | preCommit =>
    by_cases own : event = .preCommit
    · subst own
      simp [clearCaches, and_comm, eq_comm]
    · simp [clearCaches, own]
  | commit | abort => simp [clearCaches, clearCommitAbortCaches, and_comm, eq_comm]

theorem mem_foldl_clearCaches {caches : Caches} {ran : List (Event × String)} {event : Event}
    {id : String} : id ∈ ran.foldl clearCaches caches event ↔ id ∈ caches event ∧
      ∀ last, (last, id) ∈ ran → ¬(last = .preCommit → event = .preCommit) := by
  induction ran generalizing caches with
  | nil => simp
  | cons callback ran ih =>
    obtain ⟨last, name⟩ := callback
    rw [List.foldl_cons, ih, mem_clearCaches, and_assoc]
    refine and_congr_right fun _ => ?_
    simp only [List.mem_cons, Prod.mk.injEq]
    constructor
    · rintro ⟨first, later⟩ other (⟨rfl, rfl⟩ | mem)
      · exact fun clears => first ⟨rfl, clears⟩
      · exact later other mem
    · intro all
      exact ⟨fun clears => all last (.inl ⟨rfl, clears.1.symm⟩) clears.2,
        fun other mem => all other (.inr mem)⟩

theorem mem_registered_iff {requests : List (Event × String)} {event : Event} {id : String} :
    (event, id) ∈ (requestAll Caches.empty requests).registered ↔ (event, id) ∈ requests := by
  rw [← List.count_pos_iff, (requestAll_spec Caches.empty requests).2]
  by_cases requested : (event, id) ∈ requests <;> simp [Caches.empty, requested]

theorem mem_fired_iff {registered : List (Event × String)} {outcome : Outcome} {event : Event}
    {id : String} : (event, id) ∈ fired registered outcome ↔
      event ∈ outcome.events ∧ (event, id) ∈ registered := by
  simp [fired]

theorem mem_requested_iff {requests : List (Event × String)} {event : Event} {id : String} :
    id ∈ (requestAll Caches.empty requests).caches event ↔ (event, id) ∈ requests := by
  simp [(requestAll_spec Caches.empty requests).1, Caches.empty]

theorem eq_empty_iff {caches : Caches} :
    caches = Caches.empty ↔ ∀ event id, id ∉ caches event := by
  simp only [funext_iff, Caches.empty, Finset.eq_empty_iff_forall_notMem]

theorem clean_iff_settles {caches' : Caches} {t : Transaction} {ran : List (Event × String)}
    (step : backend Caches.empty t = some (caches', ran)) :
    Clean Caches.empty t ran ↔ Settles t := by
  have fresh : Fresh Caches.empty t := by simp [Fresh, Caches.empty]
  have delivered := (delivered_iff_fresh step).mpr fresh
  cases step
  have left : (fired (requestAll Caches.empty t.requests).registered t.outcome).foldl clearCaches
      (requestAll Caches.empty t.requests).caches = Caches.empty ↔ Settles t := by
    simp only [eq_empty_iff, mem_foldl_clearCaches, mem_requested_iff, mem_fired_iff,
      mem_registered_iff, Settles]
    refine forall₂_congr fun event id => ?_
    simp only [not_and, not_forall, not_not, exists_prop, and_assoc]
  refine ⟨fun clean => left.mp clean.nothingLeft, fun settles => ⟨delivered, ?_, left.mpr settles⟩⟩
  intro requests _ id
  rw [mem_registered_iff, needsCommit, decide_eq_true_iff, mem_requested_iff]

/-- Over any sequence of transactions of a new backend, all of them are clean exactly when each
settles its ids. -/
theorem always_clean_iff (transactions : List Transaction) :
    Always backend Clean Caches.empty transactions ↔ ∀ t ∈ transactions, Settles t := by
  have same : Always backend Clean Caches.empty transactions ↔
      Along backend (fun _ t => Settles t) Caches.empty transactions :=
    always_congr (· = Caches.empty)
      (fun caches t caches' ran empty step => by
        subst empty
        refine ⟨clean_iff_settles step, fun clean => ?_⟩
        cases step
        exact clean.nothingLeft) rfl transactions
  rw [same, along_input fun _ _ => rfl]

end PgAnalytics.Transactions
