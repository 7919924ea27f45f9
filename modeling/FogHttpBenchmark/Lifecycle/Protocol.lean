import FogHttpBenchmark.Library.Transition
import FogHttpBenchmark.Lifecycle.Marker

/-!
# The marker and acknowledgement protocol

The worker and its parent run side by side and share two files, each of which is replaced
as a whole. One step of the system is one access to a file, or a decision of one side
between two accesses: the worker replaces its marker, polls for the acknowledgement, sleeps
or gives up; the parent reads the marker, records the phase, replaces the acknowledgement
or stops.

A worker that gives up on a phase goes on to its cleanup, and marks the closed client under
the number that it did not get acknowledged. `markers_in_step` proves that both sides stay
in step in every run in which no such number has been taken by the parent before, and that
they can get out of step after every other write.
-/

set_option autoImplicit false

namespace FogHttpBenchmark.Lifecycle

open Library.Transition Python

/-! ## The worker -/

section Worker

/-- What the phases of a worker depend on. -/
structure Config where
  batches : ℕ
  postGc : Bool
  platform : String

/-- What a worker does after its current mark: go through the phases `todo` of the load,
close the client (`raised` when an exception is on its way), collect, or end. -/
inductive Stage where
  | load (todo : List String)
  | close (raised : Bool)
  | collect
  | ended

/-- The next phase to mark and the stage after it. -/
def Stage.nextMark (postGc : Bool) : Stage → Option (String × Stage)
  | .load (phase :: todo) => some (phase, .load todo)
  | .load [] => none
  | .close raised => some (afterClosePhase, if raised || !postGc then .ended else .collect)
  | .collect => some (postGcPhase, .ended)
  | .ended => none

/-- Where an exception leads: from the load to the `finally` that closes the client, unless
unsettled workers forbid it, and from anywhere else to the end. -/
def Stage.afterRaise (closeAllowed : Bool) : Stage → Stage
  | .load _ => if closeAllowed then .close true else .ended
  | _ => .ended

/-- The phases that may still be marked. -/
def Stage.upcoming : Stage → List String
  | .load todo => todo ++ [afterClosePhase, postGcPhase]
  | .close _ => [afterClosePhase, postGcPhase]
  | .collect => [postGcPhase]
  | .ended => []

/-- A mark takes its phase from those that are to come. -/
theorem Stage.nextMark_upcoming {postGc : Bool} {stage after : Stage} {phase : String}
    (h : stage.nextMark postGc = some (phase, after)) :
    (phase :: after.upcoming).Sublist stage.upcoming := by
  cases stage with
  | load todo =>
      cases todo with
      | nil => exact nomatch h
      | cons p rest =>
          cases h
          exact List.Sublist.refl _
  | close raised =>
      cases h
      cases raised with
      | true => exact (List.nil_sublist _).cons_cons _
      | false =>
          cases postGc with
          | true => exact List.Sublist.refl _
          | false => exact (List.nil_sublist _).cons_cons _
  | collect =>
      cases h
      exact List.Sublist.refl _
  | ended => exact nomatch h

/-- An exception adds no phase to those that are to come. -/
theorem Stage.afterRaise_upcoming (closeAllowed : Bool) (stage : Stage) :
    (stage.afterRaise closeAllowed).upcoming.Sublist stage.upcoming := by
  cases stage with
  | load todo =>
      cases closeAllowed with
      | true => exact List.sublist_append_right _ _
      | false => exact List.nil_sublist _
  | close raised => exact List.nil_sublist _
  | collect => exact List.nil_sublist _
  | ended => exact List.nil_sublist _

end Worker

/-! ## The system -/

section System

/-- Where the parent is: between two reads, with a marker read but not recorded, with a
phase recorded but not acknowledged, or no longer watching. -/
inductive Position where
  | idle
  | taken (record : PhaseRecord)
  | recorded (sequence : ℤ)
  | stopped

/-- Both sides and the files. `pending` is the marker that the worker waits for and `missed`
says that its last poll failed; `sequence` is what the parent passes to `check_marker`. -/
structure State where
  stage : Stage
  pending : Option Marker
  missed : Bool
  phases : List Marker
  markerFile : Option ControlFile
  ackFile : Option ℤ
  sequence : ℤ
  position : Position
  recorded : List PhaseRecord

/-- A worker and a parent before the first marker. -/
def initial (config : Config) : State where
  stage := .load (loadPhases config.batches)
  pending := none
  missed := false
  phases := []
  markerFile := none
  ackFile := none
  sequence := 0
  position := .idle
  recorded := []

/-- The worker's acknowledged (sequence, phase) pairs. -/
def State.acked (s : State) : List (ℤ × String) := s.phases.map Marker.entry

/-- The (sequence, phase) pairs that the parent's sampler recorded. -/
def State.entries (s : State) : List (ℤ × String) := s.recorded.map PhaseRecord.entry

/-- One access or decision of either side. The worker: `writeMarker` (with the reading of
`ru_maxrss` and the size of the text), `pollAck`, `retry` after a failed poll, `timeOut`
at the deadline, `raised` for every other exception, `finishLoad`. The parent:
`readMarker`, `mark`, `writeAck` (with the failures of the sample), `stop`. -/
inductive Action where
  | writeMarker (maxRss : ℤ) (size : ℕ)
  | pollAck
  | retry
  | timeOut
  | raised (closeAllowed : Bool)
  | finishLoad
  | readMarker
  | mark
  | writeAck (failures : Bool)
  | stop

/-- `_Worker.mark` up to the replacement of `marker.json`. -/
def writeMarker (config : Config) (s : State) (maxRss : ℤ) (size : ℕ) : Option State :=
  match s.pending, s.stage.nextMark config.postGc with
  | none, some (phase, after) =>
      let marker : Marker := ⟨s.phases.length + 1, phase, config.platform, maxRss⟩
      some { s with
        stage := after
        pending := some marker
        missed := false
        markerFile := some ⟨size, .obj marker.payload⟩ }
  | _, _ => none

/-- One round of the loop of `_Worker.mark`: the read of `ack.json`. -/
def pollAck (s : State) : Option State :=
  match s.pending, s.missed with
  | some marker, false =>
      if s.ackFile = some marker.sequence then
        some { s with pending := none, phases := s.phases ++ [marker] }
      else some { s with missed := true }
  | _, _ => none

/-- The worker waits before it reads the acknowledgement again. -/
def retry (s : State) : Option State :=
  if s.missed then some { s with missed := false } else none

/-- The exception leaves the mark, and the position of the worker. -/
def raised (s : State) (closeAllowed : Bool) : State :=
  { s with
    stage := s.stage.afterRaise closeAllowed
    pending := none
    missed := false }

/-- The worker gives up on the acknowledgement. -/
def timeOut (s : State) : Option State :=
  if s.missed then some (raised s true) else none

/-- The worker has passed all phases of its load. -/
def finishLoad (s : State) : Option State :=
  match s.pending, s.stage with
  | none, .load [] => some { s with stage := .close false }
  | _, _ => none

/-- `check_marker` up to the call of the sampler. An exception ends the monitor. -/
def readMarker (s : State) : Option State :=
  match s.position with
  | .idle =>
      match checkMarker s.markerFile s.sequence with
      | .ok none => some s
      | .ok (some record) => some { s with position := .taken record }
      | .error _ => some { s with position := .stopped }
  | _ => none

/-- `sampler.mark(marker)`. -/
def mark (s : State) : Option State :=
  match s.position with
  | .taken record =>
      some { s with recorded := s.recorded ++ [record], position := .recorded record.sequence }
  | _ => none

/-- The replacement of `ack.json` and the return to the monitor, which ends on failures. -/
def writeAck (s : State) (failures : Bool) : Option State :=
  match s.position with
  | .recorded sequence =>
      some { s with
        ackFile := some sequence
        sequence := sequence
        position := if failures then .stopped else .idle }
  | _ => none

/-- One step of the worker or of the parent. -/
def step (config : Config) (s : State) : Action → Option State
  | .writeMarker maxRss size => writeMarker config s maxRss size
  | .pollAck => pollAck s
  | .retry => retry s
  | .timeOut => timeOut s
  | .raised closeAllowed => some (raised s closeAllowed)
  | .finishLoad => finishLoad s
  | .readMarker => readMarker s
  | .mark => mark s
  | .writeAck failures => writeAck s failures
  | .stop => some { s with position := .stopped }

end System

/-! ## Being in step -/

section InStep

/-- The numbers of the pairs are 1, 2, 3, and so on. -/
def Numbered (entries : List (ℤ × String)) : Prop :=
  entries.map Prod.fst = (List.range entries.length).map fun i : ℕ => (i : ℤ) + 1

/-- One more entry has the next number. -/
theorem numbered_concat {entries : List (ℤ × String)} {entry : ℤ × String} :
    Numbered (entries ++ [entry]) ↔ Numbered entries ∧ entry.1 = entries.length + 1 := by
  rw [Numbered, Numbered, List.map_append, List.length_append, List.length_singleton,
    List.range_succ, List.map_append]
  constructor
  · intro h
    obtain ⟨hinit, hlast⟩ := List.append_inj h (by simp)
    exact ⟨hinit, by simpa using hlast⟩
  · rintro ⟨hinit, hlast⟩
    rw [hinit]
    simp [hlast]

/-- Numbered pairs with the same number are the same. -/
theorem Numbered.unique {entries : List (ℤ × String)} (h : Numbered entries) {n : ℤ}
    {p q : String} (hp : (n, p) ∈ entries) (hq : (n, q) ∈ entries) : p = q := by
  have hnodup : (entries.map Prod.fst).Nodup := by
    rw [h]
    refine List.nodup_range.map ?_
    intro i j hij
    simpa using hij
  have heq := List.inj_on_of_nodup_map hnodup hp hq rfl
  exact congrArg Prod.snd heq

/-- What both sides know of the phases agrees: the acknowledged pairs are a prefix of the
recorded ones and at most one behind, both are numbered one by one, and no phase is lost,
recorded twice or acknowledged under the number of another. -/
structure InStep (s : State) : Prop where
  acked_isPrefix : s.acked <+: s.entries
  length_le : s.entries.length ≤ s.acked.length + 1
  ackedNumbered : Numbered s.acked
  entriesNumbered : Numbered s.entries
  kept : ∀ entry ∈ s.acked, entry ∈ s.entries
  recordedOnce : (s.entries.map Prod.snd).Nodup
  agrees : ∀ n p q, (n, p) ∈ s.acked → (n, q) ∈ s.entries → p = q

/-- The recorded pairs are the acknowledged ones, or one more. -/
def Within (acked entries : List (ℤ × String)) : Prop :=
  entries = acked ∨ ∃ entry, entries = acked ++ [entry]

/-- Two sides of which one is at most one entry behind are in step. -/
theorem inStep_of_within {s : State} (hwithin : Within s.acked s.entries)
    (hnumbered : Numbered s.entries) (honce : (s.entries.map Prod.snd).Nodup) : InStep s := by
  have hpre : s.acked <+: s.entries := by
    rcases hwithin with heq | ⟨entry, heq⟩
    · rw [heq]
    · rw [heq]
      exact List.prefix_append _ _
  refine ⟨hpre, ?_, ?_, hnumbered, fun entry h => hpre.subset h, honce, ?_⟩
  · rcases hwithin with heq | ⟨entry, heq⟩
    · rw [heq]
      omega
    · rw [heq, List.length_append, List.length_singleton]
  · rcases hwithin with heq | ⟨entry, heq⟩
    · rw [← heq]
      exact hnumbered
    · rw [heq] at hnumbered
      exact (numbered_concat.1 hnumbered).1
  · intro n p q hp hq
    exact hnumbered.unique (hpre.subset hp) hq

/-- Two continuations by different pairs are out of step. -/
theorem not_inStep_of_ne {s : State} {known : List (ℤ × String)} {x y : ℤ × String}
    (hacked : s.acked = known ++ [x]) (hentries : s.entries = known ++ [y]) (hne : x ≠ y) :
    ¬ InStep s := by
  intro h
  have hpre := h.acked_isPrefix
  rw [hacked, hentries] at hpre
  have heq := hpre.eq_of_length (by simp)
  exact hne (by simpa using heq)

end InStep

/-! ## The invariant -/

section Invariant

/-- The parent holds the sequence number: it has read a marker with this number and will
acknowledge it, or has acknowledged it. -/
def Taken (s : State) (sequence : ℤ) : Prop :=
  (∃ record, s.position = .taken record ∧ record.sequence = sequence) ∨
    s.position = .recorded sequence ∨ s.ackFile = some sequence

/-- The action is not a mark under a number that the parent holds. -/
def NumberFree (s : State) (action : Action) : Prop :=
  ∀ maxRss size, action = .writeMarker maxRss size → ¬ Taken s (s.phases.length + 1)

/-- What holds in every state of a run whose marks all have free numbers. -/
structure Inv (s : State) : Prop where
  within : Within s.acked s.entries
  numbered : Numbered s.entries
  once : (s.entries.map Prod.snd).Nodup
  plan : s.stage.upcoming.Nodup
  fresh : ∀ phase ∈ s.stage.upcoming, phase ∉ s.entries.map Prod.snd
  /-- Only recorded phases are acknowledged. -/
  ack : ∀ n, s.ackFile = some n → n ≤ s.entries.length
  idle : s.position = .idle → s.sequence = s.entries.length
  /-- The parent reads the next marker when the last one is acknowledged. -/
  taken : ∀ record, s.position = .taken record →
    s.entries = s.acked ∧ record.sequence = s.entries.length + 1 ∧
      record.phase ∉ s.entries.map Prod.snd ∧ record.phase ∉ s.stage.upcoming
  recorded : ∀ n, s.position = .recorded n →
    n = s.entries.length ∧ s.entries.length = s.acked.length + 1 ∧ s.ackFile ≠ some n
  /-- The marker file has a marker of the worker, for a phase that is not recorded yet
  where the marker is the next in order. -/
  file : ∀ file, s.markerFile = some file → ∃ marker : Marker, file.value = .obj marker.payload ∧
    marker.sequence ≤ s.acked.length + 1 ∧ marker.phase ∉ s.stage.upcoming ∧
      (marker.sequence = s.entries.length + 1 → marker.phase ∉ s.entries.map Prod.snd)
  /-- While the worker waits, the file has its marker, and what the parent holds under its
  number is its phase. -/
  waiting : ∀ marker, s.pending = some marker →
    marker.sequence = s.acked.length + 1 ∧
      (∃ file, s.markerFile = some file ∧ file.value = .obj marker.payload) ∧
      (∀ record, s.position = .taken record → record.entry = marker.entry) ∧
      (s.position = .recorded marker.sequence ∨ s.ackFile = some marker.sequence →
        s.entries = s.acked ++ [marker.entry])

/-- The invariant holds before the first marker. -/
theorem inv_initial (config : Config) : Inv (initial config) where
  within := Or.inl rfl
  numbered := rfl
  once := List.nodup_nil
  plan := plannedPhases_nodup config.batches
  fresh := fun _ _ => List.not_mem_nil
  ack := fun _ h => nomatch h
  idle := fun _ => rfl
  taken := fun _ h => nomatch h
  recorded := fun _ h => nomatch h
  file := fun _ h => nomatch h
  waiting := fun _ h => nomatch h

/-- The worker leaves its mark for a stage with fewer phases. -/
theorem Inv.leave {s : State} (h : Inv s) {stage : Stage} (missed : Bool)
    (hstage : stage.upcoming.Sublist s.stage.upcoming) :
    Inv { s with stage := stage, pending := none, missed := missed } where
  within := h.within
  numbered := h.numbered
  once := h.once
  plan := h.plan.sublist hstage
  fresh := fun phase hphase => h.fresh phase (hstage.subset hphase)
  ack := h.ack
  idle := h.idle
  taken := by
    intro record hrecord
    obtain ⟨hentries, hsequence, hnew, hnot⟩ := h.taken record hrecord
    exact ⟨hentries, hsequence, hnew, fun hmem => hnot (hstage.subset hmem)⟩
  recorded := h.recorded
  file := by
    intro file hfile
    obtain ⟨marker, hvalue, hle, hnot, hnew⟩ := h.file file hfile
    exact ⟨marker, hvalue, hle, fun hmem => hnot (hstage.subset hmem), hnew⟩
  waiting := fun _ hmarker => nomatch hmarker

/-- An exception of the worker keeps it. -/
theorem inv_raised {s : State} (h : Inv s) (closeAllowed : Bool) :
    Inv (raised s closeAllowed) :=
  h.leave false (Stage.afterRaise_upcoming closeAllowed s.stage)

theorem inv_timeOut {s t : State} (h : Inv s) (hstep : timeOut s = some t) : Inv t := by
  rw [timeOut, Option.ite_none_right_eq_some] at hstep
  obtain ⟨-, hstep⟩ := hstep
  cases hstep
  exact inv_raised h true

theorem inv_retry {s t : State} (h : Inv s) (hstep : retry s = some t) : Inv t := by
  rw [retry, Option.ite_none_right_eq_some] at hstep
  obtain ⟨-, hstep⟩ := hstep
  cases hstep
  exact ⟨h.within, h.numbered, h.once, h.plan, h.fresh, h.ack, h.idle, h.taken, h.recorded,
    h.file, h.waiting⟩

theorem inv_finishLoad {s t : State} (h : Inv s) (hstep : finishLoad s = some t) : Inv t := by
  obtain ⟨stage, pending, missed, phases, markerFile, ackFile, sequence, position, recorded⟩ := s
  rw [finishLoad] at hstep
  split at hstep
  case h_1 hpending hstage =>
    cases hpending
    cases hstage
    cases hstep
    exact h.leave missed (List.Sublist.refl _)
  case h_2 => exact nomatch hstep

theorem inv_stop {s : State} (h : Inv s) : Inv { s with position := .stopped } where
  within := h.within
  numbered := h.numbered
  once := h.once
  plan := h.plan
  fresh := h.fresh
  ack := h.ack
  idle := fun hposition => nomatch hposition
  taken := fun _ hposition => nomatch hposition
  recorded := fun _ hposition => nomatch hposition
  file := h.file
  waiting := by
    intro marker hmarker
    obtain ⟨hsequence, hfile, -, hheld⟩ := h.waiting marker hmarker
    refine ⟨hsequence, hfile, fun _ hposition => (nomatch hposition), ?_⟩
    rintro (hposition | hack)
    · exact nomatch hposition
    · exact hheld (Or.inr hack)

/-- The write of a marker, whose number the parent does not hold. -/
theorem inv_writeMarker {config : Config} {s t : State} {maxRss : ℤ} {size : ℕ} (h : Inv s)
    (hfree : ¬ Taken s (s.phases.length + 1))
    (hstep : writeMarker config s maxRss size = some t) : Inv t := by
  rw [writeMarker] at hstep
  split at hstep
  case h_2 => exact nomatch hstep
  case h_1 phase after hpending hnext =>
    cases hstep
    have hsub := Stage.nextMark_upcoming hnext
    have hafter : after.upcoming.Sublist s.stage.upcoming := (List.sublist_cons_self _ _).trans hsub
    have hmem : phase ∈ s.stage.upcoming := hsub.subset (List.mem_cons_self)
    have hnot : phase ∉ after.upcoming := (List.nodup_cons.1 (h.plan.sublist hsub)).1
    have hlength : s.acked.length = s.phases.length := List.length_map _
    have hleft := h.leave false hafter
    refine ⟨h.within, h.numbered, h.once, hleft.plan, hleft.fresh, h.ack, h.idle, hleft.taken,
      h.recorded, ?_, ?_⟩
    · intro file hfile
      cases hfile
      refine ⟨_, rfl, ?_, hnot, fun _ => h.fresh phase hmem⟩
      show (s.phases.length : ℤ) + 1 ≤ s.acked.length + 1
      rw [hlength]
    · intro marker hmarker
      cases hmarker
      refine ⟨?_, ⟨_, rfl, rfl⟩, ?_, ?_⟩
      · show (s.phases.length : ℤ) + 1 = s.acked.length + 1
        rw [hlength]
      · intro record hposition
        -- A parent that has read a marker holds the worker's next number.
        obtain ⟨hentries, hsequence, -, -⟩ := h.taken record hposition
        rw [hentries, hlength] at hsequence
        exact absurd (Or.inl ⟨record, hposition, hsequence⟩) hfree
      · rintro (hposition | hack)
        · exact absurd (Or.inr (Or.inl hposition)) hfree
        · exact absurd (Or.inr (Or.inr hack)) hfree

/-- A poll that finds the acknowledgement finds the phase in the records. -/
theorem inv_pollAck {s t : State} (h : Inv s) (hstep : pollAck s = some t) : Inv t := by
  rw [pollAck] at hstep
  split at hstep
  case h_2 => exact nomatch hstep
  case h_1 marker hpending hmissed =>
    obtain ⟨hsequence, hfile, hmark, hheld⟩ := h.waiting marker hpending
    by_cases hack : s.ackFile = some marker.sequence
    · rw [if_pos hack] at hstep
      cases hstep
      have hentries : s.entries = s.acked ++ [marker.entry] := hheld (Or.inr hack)
      have hlength : s.entries.length = s.acked.length + 1 := by
        rw [hentries, List.length_append, List.length_singleton]
      have hacked : (s.phases ++ [marker]).map Marker.entry = s.entries := by
        rw [List.map_append, hentries]
        rfl
      have hcount : ((s.phases ++ [marker]).map Marker.entry).length = s.acked.length + 1 := by
        rw [hacked, hlength]
      refine ⟨Or.inl hacked.symm, h.numbered, h.once, h.plan, h.fresh, h.ack, h.idle, ?_, ?_,
        ?_, fun _ hnone => nomatch hnone⟩
      · intro record hposition
        -- The parent reads a marker only while the lists are equally long.
        obtain ⟨hequal, -, -, -⟩ := h.taken record hposition
        rw [hequal] at hlength
        omega
      · intro n hposition
        obtain ⟨hn, -, hne⟩ := h.recorded n hposition
        refine absurd hack ?_
        rw [hsequence]
        rw [hn, hlength] at hne
        exact_mod_cast hne
      · intro file hmarkerFile
        obtain ⟨written, hvalue, hle, hnot, hnew⟩ := h.file file hmarkerFile
        refine ⟨written, hvalue, ?_, hnot, hnew⟩
        show written.sequence ≤ ((s.phases ++ [marker]).map Marker.entry).length + 1
        rw [hcount]
        push_cast
        omega
    · rw [if_neg hack] at hstep
      cases hstep
      exact ⟨h.within, h.numbered, h.once, h.plan, h.fresh, h.ack, h.idle, h.taken, h.recorded,
        h.file, h.waiting⟩

/-- A marker that the parent reads keeps it. -/
theorem inv_readMarker {s t : State} (h : Inv s) (hstep : readMarker s = some t) : Inv t := by
  rw [readMarker] at hstep
  split at hstep
  case h_2 => exact nomatch hstep
  case h_1 hposition =>
    -- no file yet, a marker that is refused, or one that is taken
    split at hstep
    case h_1 =>
      cases hstep
      exact h
    case h_3 =>
      cases hstep
      exact inv_stop h
    case h_2 record hread =>
      cases hstep
      have hidle := h.idle hposition
      have hsome : s.markerFile ≠ none := by
        intro hnone
        rw [hnone] at hread
        exact nomatch hread
      obtain ⟨⟨size, value⟩, hmarkerFile⟩ := Option.ne_none_iff_exists'.1 hsome
      obtain ⟨marker, hvalue, hle, hnot, hnew⟩ := h.file _ hmarkerFile
      cases hvalue
      rw [hmarkerFile] at hread
      obtain ⟨hentry, hnext⟩ := checkMarker_payload hread
      have hsequence : record.sequence = marker.sequence := congrArg Prod.fst hentry
      have hphase : record.phase = marker.phase := congrArg Prod.snd hentry
      -- the parent owes no acknowledgement, so both sides have the same entries
      have hsame : s.entries = s.acked := by
        rcases h.within with heq | ⟨entry, heq⟩
        · exact heq
        · have hlength : s.entries.length = s.acked.length + 1 := by
            rw [heq, List.length_append, List.length_singleton]
          omega
      have hrecord : record.sequence = s.entries.length + 1 := by
        rw [hsequence, hnext, hidle]
      refine ⟨h.within, h.numbered, h.once, h.plan, h.fresh, h.ack,
        fun hp => (nomatch hp), ?_, fun _ hposition => (nomatch hposition),
        h.file, ?_⟩
      -- the record is the next one and its phase is new
      · intro r hr
        cases hr
        refine ⟨hsame, hrecord, ?_, ?_⟩
        · rw [hphase]
          exact hnew (hsequence ▸ hrecord)
        · rw [hphase]
          exact hnot
      -- what a worker waits for is what was read
      · intro waited hwaited
        obtain ⟨hnumber, ⟨file, hfile, hfileValue⟩, hmark, hheld⟩ := h.waiting waited hwaited
        refine ⟨hnumber, ⟨file, hfile, hfileValue⟩, ?_, ?_⟩
        · intro r hr
          cases hr
          rw [hmarkerFile] at hfile
          cases hfile
          rw [hentry]
          exact Marker.entry_of_payload (Json.obj.inj hfileValue)
        · rintro (hr | hack)
          · exact nomatch hr
          · exact hheld (Or.inr hack)

/-- A phase that the parent records keeps it. -/
theorem inv_mark {s t : State} (h : Inv s) (hstep : mark s = some t) : Inv t := by
  rw [mark] at hstep
  split at hstep
  case h_2 => exact nomatch hstep
  -- the record that the parent has read is the next one of its sequence
  case h_1 record hposition =>
    cases hstep
    obtain ⟨hsame, hsequence, hnew, hnot⟩ := h.taken record hposition
    have hentries : (s.recorded ++ [record]).map PhaseRecord.entry =
        s.entries ++ [record.entry] := by
      rw [List.map_append]
      rfl
    have hlength : ((s.recorded ++ [record]).map PhaseRecord.entry).length =
        s.entries.length + 1 := by
      rw [hentries, List.length_append, List.length_singleton]
    have hnames : ((s.recorded ++ [record]).map PhaseRecord.entry).map Prod.snd =
        s.entries.map Prod.snd ++ [record.phase] := by
      rw [hentries, List.map_append]
      rfl
    refine ⟨?_, ?_, ?_, h.plan, ?_, ?_, fun hp => (nomatch hp), fun _ hp => (nomatch hp), ?_, ?_,
      ?_⟩
    -- the recorded entries are ahead of the acknowledged ones by this entry
    · exact Or.inr ⟨record.entry, hentries.trans (congrArg (· ++ [record.entry]) hsame)⟩
    -- the sequences, the names that occur once, and the phases still to come
    · show Numbered ((s.recorded ++ [record]).map PhaseRecord.entry)
      rw [hentries]
      exact numbered_concat.2 ⟨h.numbered, hsequence⟩
    · show (((s.recorded ++ [record]).map PhaseRecord.entry).map Prod.snd).Nodup
      rw [hnames]
      exact List.nodup_append'.2 ⟨h.once, List.nodup_singleton _, by simpa using hnew⟩
    · intro phase hphase
      show phase ∉ ((s.recorded ++ [record]).map PhaseRecord.entry).map Prod.snd
      rw [hnames, List.mem_append, List.mem_singleton]
      rintro (hold | rfl)
      · exact h.fresh phase hphase hold
      · exact hnot hphase
    · intro n hn
      have hle := h.ack n hn
      show n ≤ ((s.recorded ++ [record]).map PhaseRecord.entry).length
      rw [hlength]
      push_cast
      omega
    -- the acknowledgement is owed for this record
    · intro n hn
      cases hn
      refine ⟨?_, ?_, ?_⟩
      · show record.sequence = ((s.recorded ++ [record]).map PhaseRecord.entry).length
        rw [hlength, hsequence]
        push_cast
        rfl
      · show ((s.recorded ++ [record]).map PhaseRecord.entry).length = s.acked.length + 1
        rw [hlength, hsame]
      · intro hack
        have hle := h.ack _ hack
        omega
    -- a marker file on disk cannot be the one after it yet
    · intro file hfile
      obtain ⟨marker, hvalue, hle, hnotMarker, -⟩ := h.file file hfile
      refine ⟨marker, hvalue, hle, hnotMarker, ?_⟩
      intro hnext
      change marker.sequence = ((s.recorded ++ [record]).map PhaseRecord.entry).length + 1 at hnext
      rw [hlength, hsame] at hnext
      push_cast at hnext
      omega
    -- a worker that waits, waits for this record
    · intro marker hmarker
      obtain ⟨hnumber, hfile, hmark, -⟩ := h.waiting marker hmarker
      refine ⟨hnumber, hfile, fun _ hp => (nomatch hp), ?_⟩
      intro _
      show (s.recorded ++ [record]).map PhaseRecord.entry = s.acked ++ [marker.entry]
      rw [hentries, hsame, hmark record hposition]

/-- An acknowledgement keeps it. -/
theorem inv_writeAck {s t : State} {failures : Bool} (h : Inv s)
    (hstep : writeAck s failures = some t) : Inv t := by
  rw [writeAck] at hstep
  split at hstep
  case h_2 => exact nomatch hstep
  case h_1 sequence hposition =>
    cases hstep
    obtain ⟨hn, hlength, -⟩ := h.recorded sequence hposition
    refine ⟨h.within, h.numbered, h.once, h.plan, h.fresh, ?_, fun _ => hn, ?_, ?_, h.file, ?_⟩
    · intro n hack
      cases hack
      exact hn.le
    · intro record hp
      cases failures with
      | true => exact nomatch hp
      | false => exact nomatch hp
    · intro n hp
      cases failures with
      | true => exact nomatch hp
      | false => exact nomatch hp
    · intro marker hmarker
      obtain ⟨hnumber, hfile, -, hheld⟩ := h.waiting marker hmarker
      refine ⟨hnumber, hfile, ?_, ?_⟩
      · intro record hp
        cases failures with
        | true => exact nomatch hp
        | false => exact nomatch hp
      · intro _
        refine hheld (Or.inl ?_)
        rw [hposition, hn, hnumber, hlength]
        rfl

/-- Every step whose mark, if it is one, has a free number keeps the invariant. -/
theorem inv_step {config : Config} (s : State) (action : Action) (t : State) (h : Inv s)
    (hfree : NumberFree s action) (hstep : step config s action = some t) : Inv t := by
  cases action with
  | writeMarker maxRss size => exact inv_writeMarker h (hfree maxRss size rfl) hstep
  | pollAck => exact inv_pollAck h hstep
  | retry => exact inv_retry h hstep
  | timeOut => exact inv_timeOut h hstep
  | raised closeAllowed =>
      cases hstep
      exact inv_raised h closeAllowed
  | finishLoad => exact inv_finishLoad h hstep
  | readMarker => exact inv_readMarker h hstep
  | mark => exact inv_mark h hstep
  | writeAck failures => exact inv_writeAck h hstep
  | stop =>
      cases hstep
      exact inv_stop h

/-- It holds in every state that is reached with marks that start with a free number. -/
theorem inv_of_reachable {config : Config} {s : State}
    (h : Reachable (step config) NumberFree (initial config) s) : Inv s :=
  h.invariant (inv_initial config) inv_step

end Invariant

/-! ## The protocol -/

section Protocol

/-- Some run from `s` leads out of step. -/
def CanDiverge (config : Config) (s : State) : Prop :=
  ∃ actions t, run (step config) s actions = some t ∧ ¬ InStep t

/-- A state from which the sides can part is left to come. -/
theorem CanDiverge.of_step {config : Config} {s t : State} (action : Action)
    (hstep : step config s action = some t) (h : CanDiverge config t) : CanDiverge config s := by
  obtain ⟨actions, u, hrun, hout⟩ := h
  exact ⟨action :: actions, u, run_cons hstep hrun, hout⟩

/-- The worker polls while the acknowledgement of another phase has its number. -/
theorem canDiverge_of_ack {config : Config} {s : State} {marker : Marker} {other : ℤ × String}
    (hpending : s.pending = some marker) (hmissed : s.missed = false)
    (hack : s.ackFile = some marker.sequence) (hentries : s.entries = s.acked ++ [other])
    (hne : marker.entry ≠ other) : CanDiverge config s := by
  have hpoll : step config s .pollAck =
      some { s with pending := none, phases := s.phases ++ [marker] } := by
    simp only [step, pollAck, hpending, hmissed, hack, if_true]
  refine ⟨[.pollAck], _, run_cons hpoll rfl, ?_⟩
  refine @not_inStep_of_ne _ s.acked marker.entry other ?_ hentries hne
  show (s.phases ++ [marker]).map Marker.entry = s.acked ++ [marker.entry]
  rw [List.map_append]
  rfl

theorem canDiverge_of_recorded {config : Config} {s : State} {marker : Marker}
    {other : ℤ × String} (hpending : s.pending = some marker) (hmissed : s.missed = false)
    (hposition : s.position = .recorded marker.sequence)
    (hentries : s.entries = s.acked ++ [other]) (hne : marker.entry ≠ other) :
    CanDiverge config s := by
  have hwrite : step config s (.writeAck false) =
      some { s with
        ackFile := some marker.sequence
        sequence := marker.sequence
        position := .idle } := by
    simp only [step, writeAck, hposition, Bool.false_eq_true, if_false]
  exact CanDiverge.of_step _ hwrite (canDiverge_of_ack hpending hmissed rfl hentries hne)

theorem canDiverge_of_taken {config : Config} {s : State} {marker : Marker}
    {record : PhaseRecord} (hpending : s.pending = some marker) (hmissed : s.missed = false)
    (hposition : s.position = .taken record) (hsequence : record.sequence = marker.sequence)
    (hentries : s.entries = s.acked) (hne : marker.entry ≠ record.entry) :
    CanDiverge config s := by
  have hmark : step config s .mark =
      some { s with
        recorded := s.recorded ++ [record]
        position := .recorded marker.sequence } := by
    simp only [step, mark, hposition, hsequence]
  refine CanDiverge.of_step _ hmark (canDiverge_of_recorded hpending hmissed rfl ?_ hne)
  show (s.recorded ++ [record]).map PhaseRecord.entry = s.acked ++ [record.entry]
  rw [List.map_append, ← hentries]
  rfl

/-- A mark under a number that the parent holds can lead out of step: what the parent holds
is another phase, as the plan has no phase twice. -/
theorem canDiverge_of_writeMarker {config : Config} {s t : State} {maxRss : ℤ} {size : ℕ}
    (h : Inv s) (htaken : Taken s (s.phases.length + 1))
    (hstep : writeMarker config s maxRss size = some t) : CanDiverge config t := by
  rw [writeMarker] at hstep
  split at hstep
  case h_2 => exact nomatch hstep
  case h_1 phase after hpending hnext =>
    cases hstep
    have hmem : phase ∈ s.stage.upcoming :=
      (Stage.nextMark_upcoming hnext).subset List.mem_cons_self
    have hlength : s.acked.length = s.phases.length := List.length_map _
    -- The last recorded phase is none that is still to be marked.
    have hother : ∀ entry, s.entries = s.acked ++ [entry] → phase ≠ entry.2 := by
      rintro entry hentries rfl
      refine h.fresh _ hmem (List.mem_map_of_mem ?_)
      rw [hentries]
      exact List.mem_append_right _ (List.mem_singleton_self _)
    rcases htaken with ⟨record, hposition, hsequence⟩ | hposition | hack
    · obtain ⟨hentries, -, -, hnot⟩ := h.taken record hposition
      refine canDiverge_of_taken rfl rfl hposition hsequence hentries ?_
      intro heq
      have hphase : phase = record.phase := congrArg Prod.snd heq
      exact hnot (hphase ▸ hmem)
    · obtain ⟨-, hlonger, -⟩ := h.recorded _ hposition
      rcases h.within with heq | ⟨entry, hentries⟩
      · rw [heq] at hlonger
        omega
      · refine canDiverge_of_recorded rfl rfl hposition hentries ?_
        intro heq
        exact hother entry hentries (congrArg Prod.snd heq)
    · have hle := h.ack _ hack
      rcases h.within with heq | ⟨entry, hentries⟩
      · rw [heq, hlength] at hle
        omega
      · refine canDiverge_of_ack rfl rfl hack hentries ?_
        intro heq
        exact hother entry hentries (congrArg Prod.snd heq)

/-- In every run in which each mark has a number that the parent does not hold, the worker
and the parent are in step in every state; and a mark under a number that the parent does
hold leads to a state from which they can get out of step. -/
theorem markers_in_step (config : Config) (s : State)
    (hrun : Reachable (step config) NumberFree (initial config) s) :
    InStep s ∧
      ∀ action t, step config s action = some t → ¬ NumberFree s action →
        CanDiverge config t := by
  have h := inv_of_reachable hrun
  refine ⟨inStep_of_within h.within h.numbered h.once, ?_⟩
  intro action t hstep hheld
  have hwrites : ∃ maxRss size, action = .writeMarker maxRss size ∧
      Taken s (s.phases.length + 1) := by
    simpa [NumberFree] using hheld
  obtain ⟨maxRss, size, rfl, htaken⟩ := hwrites
  exact canDiverge_of_writeMarker h htaken hstep

/-- The configuration of the example. -/
def oneBatch : Config := ⟨1, false, "linux"⟩

/-- The first phase, marked, recorded and acknowledged. -/
theorem markers_in_step_first_phase :
    ∃ s, run (step oneBatch) (initial oneBatch)
        [.writeMarker 0 120, .readMarker, .mark, .writeAck false, .pollAck] = some s ∧
      s.acked = [(1, "before_load")] ∧ InStep s := by
  refine ⟨_, rfl, rfl, (markers_in_step oneBatch _ ?_).1⟩
  have hfree : NumberFree (initial oneBatch) (.writeMarker 0 120) := by
    intro maxRss size _
    simp [Taken, initial]
  refine Reachable.next .pollAck (Reachable.next (.writeAck false) (Reachable.next .mark
    (Reachable.next .readMarker (Reachable.next (.writeMarker 0 120) Reachable.start hfree rfl)
      ?_ rfl) ?_ rfl) ?_ rfl) ?_ rfl
  all_goals exact fun _ _ h => nomatch h

/-- The worker gives up on `before_load` after the parent has read its marker, and marks the
closed client under the same number; the late acknowledgement of the one is taken for the
other. -/
theorem late_acknowledgement_accepted :
    ∃ s, Reachable (step oneBatch) (fun _ _ => True) (initial oneBatch) s ∧
      s.acked = [(1, "after_client_close")] ∧ s.entries = [(1, "before_load")] ∧ ¬ InStep s := by
  have hrun : ∃ s, run (step oneBatch) (initial oneBatch)
      [.writeMarker 0 120, .readMarker, .mark, .pollAck, .timeOut, .writeMarker 0 120,
        .writeAck false, .pollAck] = some s ∧
      s.acked = [(1, "after_client_close")] ∧ s.entries = [(1, "before_load")] :=
    ⟨_, rfl, rfl, rfl⟩
  obtain ⟨s, hrun, hacked, hentries⟩ := hrun
  refine ⟨s, Reachable.start.of_run hrun, hacked, hentries, ?_⟩
  exact @not_inStep_of_ne s [] _ _ hacked hentries (by decide)

end Protocol

end FogHttpBenchmark.Lifecycle
