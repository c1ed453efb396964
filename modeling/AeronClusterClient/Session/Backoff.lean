/- module: AeronClusterClient/Session/Backoff
   source: src/session_manager.cpp (wait_before_publish_retry, send_raw_message, send_combined_message)
   digest: How long a send sleeps between its offers. -/

import AeronClusterClient.Config.Validation
import AeronClusterClient.Session.OfferLoop
import Mathlib.Algebra.Order.BigOperators.Group.List

/-!
The retry loop sleeps before it offers again. The sleeps change nothing that the
loop looks at, so they are kept in a list of their own beside the machine, and to
forget the list gives the loop that the other modules speak of.
-/

set_option autoImplicit false
set_option relaxedAutoImplicit false

namespace AeronClusterClient.Session.Backoff

open Lib.Action Session.Manager Session.Availability Session.OfferLoop
open Session.CloseRequest (effectivePublishRetryAttempts_pos offered_afterLook offered_afterOffer)
open Config.Validation (Settings)
open Text (StdString)

section Pauses

/-- A count of microseconds in 64 bits; the sign is the highest bit. -/
def int64 (x : Int) : Int := x.bmod (2 ^ 64)

/-- The time slept in microseconds, or `none` for a mere `yield`. -/
def waitBeforePublishRetry (s : Settings) (attempt : Nat) : Option Int :=
  if s.publishRetryIdleBase ≤ 0 ∧ s.publishRetryIdleMax ≤ 0 then none
  else
    let base := if 0 < s.publishRetryIdleBase then s.publishRetryIdleBase else 100
    let delay := int64 (base * (attempt + 1))
    let delay :=
      if 0 < s.publishRetryIdleMax ∧ s.publishRetryIdleMax < delay then s.publishRetryIdleMax else delay
    if 0 < delay then some delay else none

/-- A pause, and how many offers had been made before it. -/
structure Pause where
  behind : Nat
  time : Option Int
  deriving DecidableEq, Repr

/-- A machine, and the pauses that its sends have made so far. -/
structure Timed where
  machine : Machine
  pauses : List Pause := []

abbrev TimedM := EStateM StdString Timed

def untimed {α : Type} (x : SessionM α) : TimedM α := fun t =>
  match x.run t.machine with
  | .ok a m => .ok a { t with machine := m }
  | .error e m => .error e { t with machine := m }

def pause (time : Option Int) : TimedM Unit :=
  modify fun t => { t with pauses := t.pauses ++ [⟨t.machine.session.offered.length, time⟩] }

variable (settings : Settings) (world : World) (frame : List UInt8)

/-- The retry loop with its pauses; the attempts are counted from zero. -/
def pausedLoop : Nat → Nat → TimedM Bool
  | 0, _ => return false
  | left + 1, attempt => do
      let result ← untimed (offer world frame)
      if 0 < result then
        untimed (update fun s =>
          { s.clearLastPublicationError with stats.messagesSent := s.stats.messagesSent + 1 })
        return true
      untimed (update fun s => s.handleOfferFailure result)
      if !isTransientFailure (classifyOfferFailure result) || left == 0 then return false
      pause (waitBeforePublishRetry settings attempt)
      pausedLoop left (attempt + 1)

/-- The pauses of so many attempts in a row, each behind one more offer. -/
def schedule (made attempt count : Nat) : List Pause :=
  (List.range count).map fun i => ⟨made + (i + 1), waitBeforePublishRetry settings (attempt + i)⟩

end Pauses

section Erasure

variable {settings : Settings} {world : World} {frame : List UInt8}

def forget {α : Type} : EStateM.Result StdString Timed α → EStateM.Result StdString Machine α
  | .ok a t => .ok a t.machine
  | .error e t => .error e t.machine

theorem forget_untimed_bind {α β : Type} (x : SessionM α) (f : α → TimedM β) (g : α → SessionM β)
    (t : Timed) (rest : ∀ a m, forget ((f a).run { t with machine := m }) = (g a).run m) :
    forget ((untimed x >>= f).run t) = (x >>= g).run t.machine := by
  have step : (untimed x).run t = match x.run t.machine with
      | .ok a m => .ok a { t with machine := m }
      | .error e m => .error e { t with machine := m } := rfl
  rw [EStateM.run_bind, EStateM.run_bind, step]
  cases x.run t.machine with
  | ok a m => exact rest a m
  | error e m => rfl

/-- Without its pauses the loop is the retry loop of the session. -/
theorem forget_pausedLoop (left attempt : Nat) (t : Timed) :
    forget ((pausedLoop settings world frame left attempt).run t) =
      (offerLoop world frame left).run t.machine := by
  induction left generalizing attempt t with
  | zero => rfl
  | succ left ih =>
      unfold pausedLoop offerLoop
      refine forget_untimed_bind _ _ _ t fun result m => ?_
      by_cases accepted : 0 < result
      · rw [if_pos accepted, if_pos accepted]
        exact forget_untimed_bind _ _ _ _ fun _ _ => rfl
      · rw [if_neg accepted, if_neg accepted]
        refine forget_untimed_bind _ _ _ _ fun _ after => ?_
        split
        · rfl
        · exact ih (attempt + 1) { machine := after, pauses := t.pauses ++ [_] }

end Erasure

section Counts

variable {settings : Settings} {world : World} {frame : List UInt8}

/-- The pauses so far are those before it, and then one behind each of so many offers in a row. -/
structure Paused (settings : Settings) (attempt count offers : Nat) (t after : Timed) : Prop where
  pauses : after.pauses =
    t.pauses ++ schedule settings t.machine.session.offered.length attempt count
  offered : after.machine.session.offered.length = t.machine.session.offered.length + offers

theorem ends_untimed {α : Type} {x : SessionM α} {t : Timed} {returns : α → Timed → Prop}
    {throws : StdString → Timed → Prop} : Ends (untimed x) t returns throws ↔
      Ends x t.machine (fun a m => returns a { t with machine := m })
        fun e m => throws e { t with machine := m } := by
  have step : (untimed x).run t = match x.run t.machine with
      | .ok a m => .ok a { t with machine := m }
      | .error e m => .error e { t with machine := m } := rfl
  unfold Ends
  rw [step]
  cases x.run t.machine <;> rfl

theorem ends_update {f : SessionState → SessionState} {m : Machine} {returns : Unit → Machine → Prop}
    {throws : StdString → Machine → Prop} :
    Ends (update f) m returns throws ↔ returns () { m with session := f m.session } := Iff.rfl

theorem ends_pause {time : Option Int} {t : Timed} {returns : Unit → Timed → Prop}
    {throws : StdString → Timed → Prop} :
    Ends (pause time) t returns throws ↔
      returns () { t with pauses := t.pauses ++ [⟨t.machine.session.offered.length, time⟩] } :=
  Iff.rfl

theorem ends_offer (m : Machine) : Ends (offer world frame) m
    (fun _ after => after.session.offered.length = m.session.offered.length + 1)
    fun _ after => after.session.offered.length = m.session.offered.length := by
  have looked := congrArg List.length (offered_afterLook world m)
  cases answered : world.offer (m.looks + 1) with
  | ok result =>
      refine (ends_of_ok (run_offer answered)).mpr ?_
      rw [offered_afterOffer, List.length_append]
      rfl
  | error e =>
      have thrown : (ofExcept (world.offer (m.looks + 1)) : SessionM Int).run (afterLook world m) =
          .error e (afterLook world m) := ofExcept_eq_error.mpr ⟨answered, rfl⟩
      have got : (get : SessionM Machine).run (afterLook world m) =
          .ok (afterLook world m) (afterLook world m) := rfl
      unfold offer offerBuffer
      refine ends_bind.mpr ((ends_of_ok run_look).mpr ?_)
      refine ends_bind.mpr ((ends_of_ok got).mpr ?_)
      exact ends_bind.mpr ((ends_of_error thrown).mpr looked)

theorem schedule_succ (made attempt count : Nat) : schedule settings made attempt (count + 1) =
    ⟨made + 1, waitBeforePublishRetry settings attempt⟩ ::
      schedule settings (made + 1) (attempt + 1) count := by
  unfold schedule
  rw [List.range_succ_eq_map, List.map_cons, List.map_map]
  refine congrArg₂ List.cons rfl (List.map_congr_left fun i _ => ?_)
  simp only [Function.comp_apply, Nat.succ_eq_add_one, Pause.mk.injEq]
  exact ⟨by omega, congrArg _ (by omega)⟩

theorem Paused.cons {attempt count offers : Nat} {t : Timed} {m : Machine} {after : Timed}
    (made : m.session.offered.length = t.machine.session.offered.length + 1)
    (paused : Paused settings (attempt + 1) count offers
      { machine := m
        pauses := t.pauses ++
          [⟨m.session.offered.length, waitBeforePublishRetry settings attempt⟩] } after) :
    Paused settings attempt (count + 1) (offers + 1) t after := by
  refine ⟨?_, ?_⟩
  · rw [paused.pauses, schedule_succ, List.append_assoc, made]
    rfl
  · rw [paused.offered]
    change m.session.offered.length + offers = _
    omega

theorem offered_handleOfferFailure (s : SessionState) (result : Int) :
    (s.handleOfferFailure result).offered = s.offered := by
  by_cases accepted : 0 < result
  · unfold SessionState.handleOfferFailure
    rw [if_pos (classifyOfferFailure_eq_none.mpr accepted)]
    rfl
  · exact (handleOfferFailure_records accepted).2.2.1

/-- Between two offers there is one pause, and there are no others. -/
theorem ends_pausedLoop {left : Nat} (filled : left ≠ 0) (attempt : Nat) (t : Timed) :
    Ends (pausedLoop settings world frame left attempt) t
      (fun _ after => ∃ count < left, Paused settings attempt count (count + 1) t after)
      fun _ after => ∃ count < left, Paused settings attempt count count t after := by
  induction left generalizing attempt t with
  | zero => exact absurd rfl filled
  | succ left ih =>
      have first := Nat.pos_of_ne_zero filled
      have none {offers : Nat} {after : Timed} (same : after.pauses = t.pauses)
          (made : after.machine.session.offered.length =
            t.machine.session.offered.length + offers) : Paused settings attempt 0 offers t after :=
        ⟨by rw [same]; simp [schedule], made⟩
      unfold pausedLoop
      refine ends_bind.mpr (ends_untimed.mpr ((ends_offer t.machine).mono (fun result m made => ?_)
        fun e m same => ⟨0, first, none rfl same⟩))
      refine ends_ite (fun accepted => ?_) fun failed => ?_
      · exact ⟨0, first, none rfl made⟩
      · refine ends_bind.mpr (ends_untimed.mpr (ends_update.mpr ?_))
        have still : (m.session.handleOfferFailure result).offered.length =
            t.machine.session.offered.length + 1 := by
          rw [offered_handleOfferFailure]
          exact made
        refine ends_ite (fun stops => ?_) fun goesOn => ?_
        · exact ⟨0, first, none rfl still⟩
        · have more : left ≠ 0 := by
            rintro rfl
            simp at goesOn
          refine ends_bind.mpr (ends_pause.mpr ?_)
          refine (ih more (attempt + 1) _).mono ?_ ?_
          · rintro _ after ⟨count, less, paused⟩
            exact ⟨count + 1, Nat.succ_lt_succ less, paused.cons still⟩
          · rintro _ after ⟨count, less, paused⟩
            exact ⟨count + 1, Nat.succ_lt_succ less, paused.cons still⟩

end Counts

section Bounds

variable {settings : Settings} {world : World} {frame : List UInt8}

/-- What is slept at an attempt: a multiple of the base, cut at the limit. -/
theorem waitBeforePublishRetry_eq (limited : 0 < settings.publishRetryIdleMax) (attempt : Nat)
    (fits : max 100 settings.publishRetryIdleBase * (attempt + 1) < 2 ^ 63) :
    waitBeforePublishRetry settings attempt = some (min settings.publishRetryIdleMax
      ((if 0 < settings.publishRetryIdleBase then settings.publishRetryIdleBase else 100) *
        (attempt + 1))) := by
  unfold waitBeforePublishRetry
  rw [if_neg (by omega)]
  dsimp only
  generalize chosen : (if 0 < settings.publishRetryIdleBase then settings.publishRetryIdleBase
    else 100) = base
  have range : 0 < base ∧ base ≤ max 100 settings.publishRetryIdleBase := by
    subst chosen
    split <;> omega
  have positive : 0 < base * ((attempt : Int) + 1) := Int.mul_pos range.1 (by omega)
  have below : base * ((attempt : Int) + 1) ≤ max 100 settings.publishRetryIdleBase * (attempt + 1) :=
    Int.mul_le_mul_of_nonneg_right range.2 (by omega)
  have exact : int64 (base * (attempt + 1)) = base * (attempt + 1) := by
    unfold int64
    rw [Int.bmod_eq_of_le] <;> omega
  rw [exact]
  generalize base * ((attempt : Int) + 1) = delay at positive
  have cut : (if 0 < settings.publishRetryIdleMax ∧ settings.publishRetryIdleMax < delay then
      settings.publishRetryIdleMax else delay) = min settings.publishRetryIdleMax delay := by
    by_cases longer : settings.publishRetryIdleMax < delay
    · rw [if_pos ⟨limited, longer⟩, min_eq_left (le_of_lt longer)]
    · rw [if_neg fun both => longer both.2, min_eq_right (not_lt.mp longer)]
  rw [cut, if_pos (lt_min limited positive)]

def Pause.slept (p : Pause) : Int := p.time.getD 0

structure WithinLimits (settings : Settings) (attempts : Nat) (pauses : List Pause) : Prop where
  fewer : pauses.length < attempts
  each : ∀ p ∈ pauses, 0 < p.slept ∧ p.slept ≤ settings.publishRetryIdleMax
  growing : pauses.Pairwise fun earlier later => earlier.slept ≤ later.slept
  total : (pauses.map Pause.slept).sum ≤ (attempts - 1 : Nat) * settings.publishRetryIdleMax

theorem withinLimits_schedule (limited : 0 < settings.publishRetryIdleMax) {attempts made count : Nat}
    (fewer : count < attempts)
    (fits : max 100 settings.publishRetryIdleBase * attempts < 2 ^ 63) :
    WithinLimits settings attempts (schedule settings made 0 count) := by
  have wait {i : Nat} (early : i < count) :
      Pause.slept ⟨made + (i + 1), waitBeforePublishRetry settings (0 + i)⟩ =
        min settings.publishRetryIdleMax
          ((if 0 < settings.publishRetryIdleBase then settings.publishRetryIdleBase else 100) *
            (i + 1)) := by
    have small : max 100 settings.publishRetryIdleBase * ((i : Int) + 1) ≤
        max 100 settings.publishRetryIdleBase * attempts :=
      Int.mul_le_mul_of_nonneg_left (by omega) (by omega)
    rw [Nat.zero_add, waitBeforePublishRetry_eq limited i (by omega)]
    rfl
  have base : 0 < (if 0 < settings.publishRetryIdleBase then settings.publishRetryIdleBase
      else (100 : Int)) := by
    split <;> omega
  have each : ∀ p ∈ schedule settings made 0 count,
      0 < p.slept ∧ p.slept ≤ settings.publishRetryIdleMax := by
    intro p among
    obtain ⟨i, early, rfl⟩ := List.mem_map.mp among
    rw [wait (List.mem_range.mp early)]
    exact ⟨lt_min limited (Int.mul_pos base (by omega)), min_le_left _ _⟩
  have length : (schedule settings made 0 count).length = count := by simp [schedule]
  refine ⟨lt_of_eq_of_lt length fewer, each, ?_, ?_⟩
  · rw [schedule, List.pairwise_map]
    refine List.pairwise_lt_range.imp_of_mem fun {i j} first second before => ?_
    rw [wait (List.mem_range.mp first), wait (List.mem_range.mp second)]
    exact min_le_min_left _ (Int.mul_le_mul_of_nonneg_left (by omega) (le_of_lt base))
  · have all := List.sum_le_card_nsmul ((schedule settings made 0 count).map Pause.slept)
      settings.publishRetryIdleMax fun time among => by
        obtain ⟨p, there, rfl⟩ := List.mem_map.mp among
        exact (each p there).2
    rw [List.length_map, length, nsmul_eq_mul] at all
    refine all.trans (Int.mul_le_mul_of_nonneg_right ?_ (le_of_lt limited))
    omega

/-- The pauses of a send stand one by one behind its first, its second, ... offer, and so many offers
have been made behind the last of them. -/
structure Alternates (m : Machine) (last : Nat) (after : Timed) : Prop where
  places : after.pauses.map Pause.behind =
    (List.range after.pauses.length).map fun i => m.session.offered.length + (i + 1)
  offers : after.machine.session.offered.length =
    m.session.offered.length + (after.pauses.length + last)

theorem alternates_of_paused {m : Machine} {count last : Nat} {after : Timed}
    (paused : Paused settings 0 count (count + last) ⟨m, []⟩ after) : Alternates m last after := by
  have pauses : after.pauses = schedule settings m.session.offered.length 0 count := paused.pauses
  have length : after.pauses.length = count := by simp [pauses, schedule]
  refine ⟨?_, ?_⟩
  · rw [length, pauses, schedule, List.map_map]
    rfl
  · rw [length]
    exact paused.offered

def congested : World := { offer := fun _ => .ok BACK_PRESSURED }

end Bounds

end AeronClusterClient.Session.Backoff
