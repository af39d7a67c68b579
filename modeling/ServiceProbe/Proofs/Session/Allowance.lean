import Mathlib.Data.List.Basic
import ServiceProbe.Proofs.Session.Clock
import ServiceProbe.Proofs.Session.Record
import ServiceProbe.Task.Polling

/-!
# How many requests, and about which tasks

A procedure keeps to an allowance (`Procedure.Keeps`) if on each of its ways there are no more submissions, status
requests and cancellations than allowed, and none of them is about a task that it does not hold: one that was held
at the beginning, or whose submission was accepted on the way. What one step spends is said once
(`Spent.cons`), and from it follows what a whole record has spent (`Procedure.Keeps.spent`), whatever the service
answers and wherever it makes the client break off.

* `Founded` — each request about a task follows an accepted submission of that task;
* `Allowance.Kept` — a record is founded and within bounds;
* `Allowance.Kept.merge` — side by side, records that keep to an allowance keep to as many times that allowance.
-/

namespace ServiceProbe

namespace Entry

/-- The task that a status request or a cancellation is about. -/
def about? (entry : Entry) : Option (Endpoint × String) :=
  match entry.step with
  | .call (.check endpoint id) _ => some (endpoint, id)
  | .call (.cancel endpoint id) _ => some (endpoint, id)
  | .call (.submit _ _) _ => none
  | .event _ _ => none

/-- The task that came of an accepted submission. -/
def accepts? (entry : Entry) : Option (Endpoint × String) :=
  match entry.step with
  | .call (.submit endpoint _) _ => entry.accepted?.map (endpoint, ·)
  | .call (.check _ _) _ => none
  | .call (.cancel _ _) _ => none
  | .event _ _ => none

def isSubmission (entry : Entry) : Bool :=
  match entry.step with
  | .call (.submit _ _) _ => true
  | _ => false

def isCancellation (entry : Entry) : Bool :=
  match entry.step with
  | .call (.cancel _ _) _ => true
  | _ => false

def isCheck (entry : Entry) : Bool :=
  entry.step.isCheck

/-- The entry is a status request for the task. -/
def checks (task : Endpoint × String) (entry : Entry) : Bool :=
  entry.isCheck && entry.about? == some task

/-- The entry is an accepted submission of the task. -/
def accepts (task : Endpoint × String) (entry : Entry) : Bool :=
  entry.accepts? == some task

theorem about?_of_accepts? {entry : Entry} {task : Endpoint × String} (h : entry.accepts? = some task) :
    entry.about? = none := by
  obtain ⟨step, accepted?⟩ := entry
  match step with
  | .call (.submit _ _) _ => rfl
  | .call (.check _ _) _ | .call (.cancel _ _) _ | .event _ _ => cases h

end Entry

/-- **Requests with a foundation.** Each status request and each cancellation in the record names an endpoint and
an id under which a submission was accepted before it. -/
def Founded (record : List Entry) : Prop :=
  ∀ before entry after, record = before ++ entry :: after → ∀ task, entry.about? = some task →
    ∃ earlier ∈ before, earlier.accepts? = some task ∧ earlier.step.instant ≤ entry.step.instant

/-! ### What a procedure spends -/

/-- What has been spent in a record that begins with some tasks at hand. -/
structure Spent (held : List (Endpoint × String)) (submissions checks cancellations : Nat)
    (record : List Entry) : Prop where
  known : ∀ before entry after, record = before ++ entry :: after → ∀ task, entry.about? = some task →
    task ∈ held ∨ ∃ earlier ∈ before, earlier.accepts? = some task
  submissions_le : record.countP Entry.isSubmission ≤ submissions
  checks_le : record.countP Entry.isCheck ≤ checks
  cancellations_le : record.countP Entry.isCancellation ≤ cancellations

namespace Spent

variable {held : List (Endpoint × String)} {submissions checks cancellations : Nat} {record : List Entry}

theorem nil : Spent held submissions checks cancellations [] :=
  ⟨fun before entry after h => by simp at h, Nat.zero_le _, Nat.zero_le _, Nat.zero_le _⟩

/-- **One step.** It is about a task at hand, it spends what it is, and the task that comes of it is at hand from
then on. -/
theorem cons (entry : Entry) (atHand : ∀ task, entry.about? = some task → task ∈ held)
    (rest : Spent (entry.accepts?.toList ++ held) submissions checks cancellations record) :
    Spent held (submissions + entry.isSubmission.toNat) (checks + entry.isCheck.toNat)
      (cancellations + entry.isCancellation.toNat) (entry :: record) := by
  have counts (isOne : Entry → Bool) {spent : Nat} (le : record.countP isOne ≤ spent) :
      (entry :: record).countP isOne ≤ spent + (isOne entry).toNat := by
    rw [List.countP_cons]
    cases isOne entry <;> simpa using le
  refine ⟨?_, counts _ rest.submissions_le, counts _ rest.checks_le, counts _ rest.cancellations_le⟩
  intro before other after split task about
  rcases List.append_eq_cons_iff.1 split.symm with ⟨rfl, same⟩ | ⟨before, rfl, same⟩
  · -- it is the step itself
    cases same
    exact .inl (atHand task about)
  · rcases rest.known before other after same task about with among | ⟨earlier, member, accepted⟩
    · rcases List.mem_append.1 among with new | old
      · exact .inr ⟨entry, List.mem_cons_self, Option.mem_toList.1 new⟩
      · exact .inl old
    · exact .inr ⟨earlier, List.mem_cons_of_mem _ member, accepted⟩

end Spent

namespace Procedure

variable {α β σ : Type}

/-- **A procedure that keeps to an allowance**, with some tasks at hand: on each of its ways there are at most so
many submissions, status requests and cancellations, and those that are about a task are about one at hand. An
accepted submission brings a task to hand. -/
inductive Keeps : List (Endpoint × String) → Nat → Nat → Nat → Procedure α → Prop where
  | done {held submissions checks cancellations} (result : α) :
    Keeps held submissions checks cancellations (done result)
  | crash {held submissions checks cancellations} (text : Option String) :
    Keeps held submissions checks cancellations (crash text)
  | clock {held submissions checks cancellations} {next : Nanos → Procedure α}
    (h : ∀ now, Keeps held submissions checks cancellations (next now)) :
    Keeps held submissions checks cancellations (clock next)
  | sleep {held submissions checks cancellations} (span : Nanos) {next : Procedure α}
    (h : Keeps held submissions checks cancellations next) :
    Keeps held submissions checks cancellations (sleep span next)
  | record {held submissions checks cancellations} (event : Event) {next : Procedure α}
    (h : Keeps held submissions checks cancellations next) :
    Keeps held submissions checks cancellations (record event next)
  | submit {held submissions checks cancellations} (credential : Credential) (endpoint : Endpoint)
    (payload : Payload) {next : Except Error String → Procedure α}
    (accepted : ∀ id, Keeps ((endpoint, id) :: held) submissions checks cancellations (next (.ok id)))
    (refused : ∀ e, Keeps held submissions checks cancellations (next (.error e))) :
    Keeps held (submissions + 1) checks cancellations (submit credential endpoint payload next)
  | check {held submissions checks cancellations} {endpoint : Endpoint} {id : String}
    (atHand : (endpoint, id) ∈ held) {next : Except Error Snapshot → Procedure α}
    (h : ∀ answer, Keeps held submissions checks cancellations (next answer)) :
    Keeps held submissions (checks + 1) cancellations (check endpoint id next)
  | cancel {held submissions checks cancellations} {endpoint : Endpoint} {id : String}
    (atHand : (endpoint, id) ∈ held) {next : Except Error Bool → Procedure α}
    (h : ∀ answer, Keeps held submissions checks cancellations (next answer)) :
    Keeps held submissions checks (cancellations + 1) (cancel endpoint id next)

namespace Keeps

variable {held : List (Endpoint × String)} {submissions checks cancellations : Nat}
  {procedure : Procedure α}

/-- A procedure that begins with a submission has the task at hand where it was accepted. -/
theorem submitTask_bind {credential : Credential} {endpoint : Endpoint} {payload : Payload}
    {f : Except Error Handle → Procedure α}
    (accepted : ∀ id submitted,
      Keeps ((endpoint, id) :: held) submissions checks cancellations (f (.ok ⟨id, endpoint, submitted⟩)))
    (refused : ∀ e, Keeps held submissions checks cancellations (f (.error e))) :
    Keeps held (submissions + 1) checks cancellations ((submitTask endpoint payload credential).bind f) :=
  .clock fun submitted => .submit credential endpoint payload (fun id => accepted id submitted) refused

/-- A change of the result makes no request. -/
theorem bind_done (h : Keeps held submissions checks cancellations procedure) (f : α → β) :
    Keeps held submissions checks cancellations (procedure.bind fun result => .done (f result)) := by
  induction h with
  | done result => exact .done _
  | crash text => exact .crash text
  | clock _ ih => exact .clock ih
  | sleep span _ ih => exact .sleep span ih
  | record event _ ih => exact .record event ih
  | submit credential endpoint payload _ _ accepted refused =>
    exact .submit credential endpoint payload accepted refused
  | check atHand _ ih => exact .check atHand ih
  | cancel atHand _ ih => exact .cancel atHand ih

/-- **A whole run.** Its record has spent no more than its procedure is allowed, whatever the service answers. -/
theorem spent (h : Keeps held submissions checks cancellations procedure) (service : Service σ) (now : Nanos)
    (state : σ) : Spent held submissions checks cancellations (procedure.entries service now state) := by
  induction h generalizing now state with
  | done result => exact .nil
  | crash text => exact .nil
  | clock _ ih => exact ih now now state
  | sleep span _ ih => exact ih (now + span) state
  | record event _ ih => exact Spent.cons ⟨.event event _, none⟩ (fun _ none => by cases none) (ih now state)
  | @submit held submissions checks cancellations credential endpoint payload next _ _ accepted refused =>
    rw [entries]
    refine Spent.cons ⟨.call (.submit endpoint payload) now, _⟩ (fun _ none => by cases none) ?_
    -- the answer decides what is at hand, and a client that breaks off goes nowhere
    rw [Entry.accepts?, Reply.accepted?]
    cases (service.submit state credential endpoint payload).1.answer with
    | returns answer =>
      cases answer with
      | ok id => exact accepted id _ _
      | error e => exact refused e _ _
    | crashes text => exact .nil
  | @check held submissions checks cancellations endpoint id atHand next _ ih =>
    rw [entries]
    refine Spent.cons ⟨.call (.check endpoint id) now, none⟩ (fun task about => ?_) ?_
    · cases about
      -- the task was at hand when it was asked about
      exact atHand
    · cases (service.check state endpoint id).1.answer with
      | returns answer => exact ih answer _ _
      | crashes text => exact .nil
  | @cancel held submissions checks cancellations endpoint id atHand next _ ih =>
    rw [entries]
    refine Spent.cons ⟨.call (.cancel endpoint id) now, none⟩ (fun task about => ?_) ?_
    · cases about
      exact atHand
    · cases (service.cancel state endpoint id).1.answer with
      | returns answer => exact ih answer _ _
      | crashes text => exact .nil

end Keeps

end Procedure

/-- A procedure that begins with a submission has one in its record. -/
theorem Procedure.one_le_submissions {α σ : Type} (service : Service σ) (credential : Credential)
    (endpoint : Endpoint) (payload : Payload) (f : Except Error Handle → Procedure α) (now : Nanos) (state : σ) :
    1 ≤ (((submitTask endpoint payload credential).bind f).entries service now state).countP
      Entry.isSubmission := by
  rw [submitTask, bind, entries, bind, entries]
  exact List.countP_pos_iff.2 ⟨⟨.call (.submit endpoint payload) now, _⟩, List.mem_cons_self, rfl⟩

/-! ### Records side by side -/

namespace Founded

theorem nil : Founded [] :=
  fun before entry after h => by simp at h

/-- A founded record may be followed by another one. -/
theorem append {record record' : List Entry} (h : Founded record) (h' : Founded record') :
    Founded (record ++ record') := by
  intro before entry after split task about
  rcases List.append_eq_append_iff.1 split with ⟨more, rfl, same⟩ | ⟨more, rfl, same⟩
  · -- the entry is in the second record
    obtain ⟨earlier, member, accepted⟩ := h' more entry after same task about
    exact ⟨earlier, List.mem_append_right _ member, accepted⟩
  · cases more with
    | nil =>
      obtain ⟨earlier, member, -⟩ := h' [] entry after same.symm task about
      exact absurd member List.not_mem_nil
    | cons first more =>
      cases same
      exact h before entry more rfl task about

end Founded

/-- What has been spent by a record that began without a task at hand and stands in the order of time is founded. -/
theorem Spent.founded {submissions checks cancellations : Nat} {record : List Entry}
    (h : Spent [] submissions checks cancellations record)
    (ordered : record.Pairwise fun earlier later => earlier.step.instant ≤ later.step.instant) :
    Founded record := by
  intro before entry after split task about
  obtain ⟨earlier, member, accepted⟩ := (h.known before entry after split task about).resolve_left
    List.not_mem_nil
  rw [split] at ordered
  exact ⟨earlier, member, accepted, (List.pairwise_append.1 ordered).2.2 earlier member entry List.mem_cons_self⟩

/-- A stable sort keeps an element before all those of a kind, if none of them is below it and they are all
alike. -/
private theorem mem_before_of_mergeSort {α : Type} {le : α → α → Bool}
    (trans : ∀ a b c, le a b → le b c → le a c) (total : ∀ a b, le a b || le b a)
    {items front back : List α} {a : α} (split : items = front ++ a :: back)
    {like : α → Bool} (notLike : ¬ like a) (noneInFront : ∀ b ∈ front, ¬ like b)
    (above : ∀ b, like b → le a b) (level : ∀ b c, like b → like c → le b c)
    {before after : List α} {b : α} (sorted : items.mergeSort le = before ++ b :: after) (isLike : like b) :
    a ∈ before := by
  -- the element and all those of the kind are in order already, so they stay as they are
  have inOrder : (a :: back.filter like).Pairwise fun b c => le b c := by
    refine List.pairwise_cons.2 ⟨fun b member => above b (List.mem_filter.1 member).2, ?_⟩
    exact List.pairwise_of_forall_mem_list fun b first c second =>
      level b c (List.mem_filter.1 first).2 (List.mem_filter.1 second).2
  have within : (a :: back.filter like).Sublist items := by
    rw [split]
    exact (List.filter_sublist.cons_cons a).trans (List.sublist_append_right _ _)
  obtain ⟨left, right, halves, inLeft, inRight⟩ :=
    List.cons_sublist_iff.1 (List.sublist_mergeSort trans total inOrder within)
  -- all of the kind are behind the element, so none is left of it
  have count : left.countP like + right.countP like = back.countP like := by
    rw [← List.countP_append, ← halves, (List.mergeSort_perm items le).countP_eq, split, List.countP_append,
      List.countP_eq_zero.2 noneInFront, Nat.zero_add, List.countP_cons_of_neg notLike]
  have behind : back.countP like ≤ right.countP like := by
    have kept : (back.filter like).countP like = back.countP like := by
      rw [List.countP_filter]
      exact congrArg (List.countP · back) (funext fun b => Bool.and_self _)
    exact kept ▸ inRight.countP_le
  have none : left.countP like = 0 := by omega
  rw [halves] at sorted
  rcases List.append_eq_append_iff.1 sorted with ⟨more, rfl, -⟩ | ⟨more, rfl, same⟩
  · exact List.mem_append_left _ inLeft
  · cases more with
    | nil => rwa [List.append_nil] at inLeft
    | cons c more =>
      cases same
      exact absurd isLike (List.countP_eq_zero.1 none b (List.mem_append_right _ List.mem_cons_self))

/-- **Merging keeps the foundation.** Entries at one instant stay in their order. -/
theorem Founded.merge {lanes : List (List Entry)} (h : Founded lanes.flatten) : Founded (Pool.merge lanes) := by
  intro before entry after split task about
  -- the entries about this task at this instant
  let like (other : Entry) : Bool := other.about? == some task && other.step.instant == entry.step.instant
  have like_iff (other : Entry) :
      like other ↔ other.about? = some task ∧ other.step.instant = entry.step.instant := by
    simp [like]
  have isLike : like entry := (like_iff entry).2 ⟨about, rfl⟩
  have among : entry ∈ lanes.flatten :=
    (List.mergeSort_perm _ _).subset (split ▸ List.mem_append_right _ List.mem_cons_self)
  -- the first of them in the lanes has its foundation in front of all of them
  obtain ⟨first, isFirst⟩ := Option.isSome_iff_exists.1 (List.find?_isSome.2 ⟨entry, among, isLike⟩)
  obtain ⟨firstLike, front, back, lanesSplit, noneInFront⟩ := List.find?_eq_some_iff_append.1 isFirst
  obtain ⟨firstAbout, sameInstant⟩ := (like_iff first).1 firstLike
  obtain ⟨earlier, member, accepted, before'⟩ := h front first back lanesSplit task firstAbout
  obtain ⟨front', back', rfl⟩ := List.append_of_mem member
  refine ⟨earlier, ?_, accepted, Nat.le_trans before' (Nat.le_of_eq sameInstant)⟩
  let instant (entry : Entry) : Nanos := entry.step.instant
  refine mem_before_of_mergeSort (sooner_trans instant) (sooner_total instant)
    (lanesSplit.trans (List.append_assoc _ _ _)) ?_ ?_ ?_ ?_ split isLike
  · -- a submission is about no task
    rw [like_iff, Entry.about?_of_accepts? accepted]
    exact fun h => nomatch h.1
  · intro other inFront isLike'
    exact absurd (noneInFront other (List.mem_append_left _ inFront)) (by simp [isLike'])
  · intro other isLike'
    have level := ((like_iff other).1 isLike').2
    exact decide_eq_true (Nat.le_trans before' (Nat.le_of_eq (sameInstant.trans level.symm)))
  · intro other other' isLike' isLike''
    have level := ((like_iff other).1 isLike').2
    have level' := ((like_iff other').1 isLike'').2
    exact decide_eq_true (Nat.le_of_eq (level.trans level'.symm))

/-! ### Allowances -/

/-- How often something may be asked of the service. -/
structure Allowance where
  /-- The bounds on the submissions. -/
  fewest : Nat
  most : Nat
  /-- The bound on the cancellations. -/
  cancellations : Nat
  /-- The bound on the status requests for each task. -/
  checks : Nat

namespace Allowance

/-- **A record keeps to an allowance.** A task that was accepted more than once, under one id, counts as often. -/
structure Kept (allowance : Allowance) (record : List Entry) : Prop where
  founded : Founded record
  fewest_le : allowance.fewest ≤ record.countP Entry.isSubmission
  le_most : record.countP Entry.isSubmission ≤ allowance.most
  cancellations_le : record.countP Entry.isCancellation ≤ allowance.cancellations
  checks_le : ∀ task, record.countP (Entry.checks task) ≤
    allowance.checks * record.countP (Entry.accepts task)
  allChecks_le : record.countP Entry.isCheck ≤ allowance.most * allowance.checks

namespace Kept

variable {fewest fewest' most most' cancellations cancellations' checks : Nat} {record record' : List Entry}

theorem nil (checks : Nat) : Kept ⟨0, 0, 0, checks⟩ [] :=
  ⟨.nil, Nat.zero_le _, Nat.zero_le _, Nat.zero_le _, fun _ => Nat.zero_le _, Nat.zero_le _⟩

/-- One record after the other, each with its allowance. -/
theorem append (h : Kept ⟨fewest, most, cancellations, checks⟩ record)
    (h' : Kept ⟨fewest', most', cancellations', checks⟩ record') :
    Kept ⟨fewest + fewest', most + most', cancellations + cancellations', checks⟩ (record ++ record') := by
  refine ⟨h.founded.append h'.founded, ?_, ?_, ?_, fun task => ?_, ?_⟩
  · rw [List.countP_append]
    exact Nat.add_le_add h.fewest_le h'.fewest_le
  · rw [List.countP_append]
    exact Nat.add_le_add h.le_most h'.le_most
  · rw [List.countP_append]
    exact Nat.add_le_add h.cancellations_le h'.cancellations_le
  · rw [List.countP_append, List.countP_append, Nat.mul_add]
    exact Nat.add_le_add (h.checks_le task) (h'.checks_le task)
  · rw [List.countP_append, Nat.add_mul]
    exact Nat.add_le_add h.allChecks_le h'.allChecks_le

theorem flatten {lanes : List (List Entry)}
    (h : ∀ lane ∈ lanes, Kept ⟨fewest, most, cancellations, checks⟩ lane) :
    Kept ⟨lanes.length * fewest, lanes.length * most, lanes.length * cancellations, checks⟩ lanes.flatten := by
  induction lanes with
  | nil =>
    simp only [List.length_nil, Nat.zero_mul]
    exact nil checks
  | cons lane lanes ih =>
    obtain ⟨first, rest⟩ := List.forall_mem_cons.1 h
    simp only [List.length_cons, Nat.succ_mul, Nat.add_comm _ fewest, Nat.add_comm _ most,
      Nat.add_comm _ cancellations]
    exact first.append (ih rest)

/-- **Records side by side.** -/
theorem merge {lanes : List (List Entry)}
    (h : ∀ lane ∈ lanes, Kept ⟨fewest, most, cancellations, checks⟩ lane) :
    Kept ⟨lanes.length * fewest, lanes.length * most, lanes.length * cancellations, checks⟩
      (Pool.merge lanes) := by
  have whole := flatten h
  have count (isOne : Entry → Bool) : (Pool.merge lanes).countP isOne = lanes.flatten.countP isOne :=
    (List.mergeSort_perm _ _).countP_eq isOne
  refine ⟨whole.founded.merge, ?_, ?_, ?_, fun task => ?_, ?_⟩
  · exact count _ ▸ whole.fewest_le
  · exact count _ ▸ whole.le_most
  · exact count _ ▸ whole.cancellations_le
  · rw [count, count]
    exact whole.checks_le task
  · exact count _ ▸ whole.allChecks_le

/-- What a procedure without a task at hand is allowed, its record keeps to. -/
theorem of_keeps {α σ : Type} {procedure : Procedure α}
    (keeps : procedure.Keeps [] most checks cancellations) (service : Service σ) (now : Nanos) (state : σ)
    (some : 1 ≤ (procedure.entries service now state).countP Entry.isSubmission) :
    Kept ⟨1, most, cancellations, checks⟩ (procedure.entries service now state) := by
  have spent := keeps.spent service now state
  have ordered : (procedure.entries service now state).Pairwise fun earlier later =>
      earlier.step.instant ≤ later.step.instant := by
    have timely := (procedure.timely_run service now state).ordered
    rwa [← procedure.map_step_entries, List.pairwise_map] at timely
  -- what was accepted before an entry is what was at hand for it
  have founded := spent.founded ordered
  refine ⟨founded, some, spent.submissions_le, spent.cancellations_le, fun task => ?_, ?_⟩
  · -- a task that was not accepted is not asked about, and one acceptance is enough for all status requests
    generalize procedure.entries service now state = record at *
    rcases Nat.eq_zero_or_pos (record.countP (Entry.checks task)) with none | found
    · exact none ▸ Nat.zero_le _
    · obtain ⟨entry, member, checks'⟩ := List.countP_pos_iff.1 found
      obtain ⟨isCheck, about⟩ := Bool.and_eq_true_iff.1 checks'
      obtain ⟨before, after, split⟩ := List.append_of_mem member
      obtain ⟨earlier, inFront, accepted, -⟩ := founded before entry after split task (beq_iff_eq.1 about)
      have accepted : 1 ≤ record.countP (Entry.accepts task) :=
        List.countP_pos_iff.2 ⟨earlier, split ▸ List.mem_append_left _ inFront, beq_iff_eq.2 accepted⟩
      calc record.countP (Entry.checks task)
        _ ≤ record.countP Entry.isCheck :=
          List.countP_mono_left fun entry _ checks => (Bool.and_eq_true_iff.1 checks).1
        _ ≤ checks := spent.checks_le
        _ ≤ checks * record.countP (Entry.accepts task) := Nat.le_mul_of_pos_right _ accepted
  · calc (procedure.entries service now state).countP Entry.isCheck
      _ ≤ checks := spent.checks_le
      _ ≤ most * checks := Nat.le_mul_of_pos_left _ (Nat.le_trans some spent.submissions_le)

end Kept

end Allowance

/-! ### Polls -/

namespace Polling

open Procedure (Keeps)

variable {handle : Handle} {held : List (Endpoint × String)} {submissions checks cancellations : Nat}

theorem keeps_finish (handle : Handle) (word : String) (details : Option String) (outcome : Nanos → Outcome) :
    Keeps held submissions checks cancellations (finish handle word details outcome) :=
  .clock fun _ => .record _ (.done _)

theorem keeps_attempt (polling : Polling) (atHand : (handle.endpoint, handle.id) ∈ held) (made left : Nat) :
    Keeps held submissions left cancellations (attempt polling handle made left) := by
  induction left generalizing made with
  | zero => exact keeps_finish handle _ _ _
  | succ left ih =>
    refine .clock fun now => ?_
    change Keeps _ _ _ _ (if polling.isExhausted (now - handle.submitted) then _ else _)
    split
    · exact keeps_finish handle _ _ _
    · -- the one check that is made here is of the task at hand; the others are left for the rest
      refine .sleep polling.interval (.check atHand fun answer => ?_)
      rw [Procedure.bind]
      cases Decision.of? answer with
      | some decision => exact keeps_finish handle _ _ _
      | none => exact ih (made + 1)

/-- A poll makes at most as many status requests as it has attempts, all for its task. -/
theorem keeps_poll (polling : Polling) (handle : Handle) (atHand : (handle.endpoint, handle.id) ∈ held) :
    Keeps held submissions polling.maxAttempts cancellations (polling.poll handle) :=
  polling.keeps_attempt atHand 0 polling.maxAttempts

end Polling

end ServiceProbe
