import Mathlib.Data.List.Nodup
import Udapcfg.Udap.FanOut
import Udapcfg.Udap.Session

/-!
# Fan-out with retries

`send_retried` over a `MultiTransport` is a loop over a loop, and each of them counts successes and
keeps errors in its own way.

* `send_round` — one round: every child once, in turn
* `sendLoop_rounds` — any number of rounds
* `sendRetried_fanOut` — all the sends, and what comes of them
-/

namespace Udap

open Infra

/-! ## Attempts -/

section Attempts

variable {σ : Type} (T : Transport σ) (packet : Bytes)

/-- What `n` sends in a row come to. -/
def attempts : Nat → σ → List (Except TransportError Unit) × σ
  | 0, t => ([], t)
  | n + 1, t =>
    let r := T.send packet t
    let rest := attempts n r.2
    (r.1 :: rest.1, rest.2)

/-- The error that `send_retried` keeps. -/
def firstError (results : List (Except TransportError Unit)) : Option TransportError :=
  results.findSome? fun
    | .ok () => none
    | .error e => some e

/-- The loop of `send_retried`. -/
theorem sendLoop_attempts (n : Nat) (firstErr : Option TransportError) (successes : Nat) (t : σ) :
    Session.sendLoop T packet n firstErr successes t
      = (firstErr.or (firstError (attempts T packet n t).1),
          successes + (attempts T packet n t).1.countP Except.isOk, (attempts T packet n t).2) := by
  induction n generalizing firstErr successes t with
  | zero => simp [Session.sendLoop, attempts, firstError]
  | succ n ih =>
    rcases hsend : T.send packet t with ⟨result, t₁⟩
    rw [Session.sendLoop, attempts, hsend]
    simp only
    cases result with
    | ok u =>
      simp only
      rw [ih, List.countP_cons_of_pos rfl, firstError, firstError, List.findSome?_cons]
      simp only [Prod.mk.injEq, true_and, and_true]
      omega
    | error e =>
      simp only
      rw [ih, List.countP_cons_of_neg Bool.false_ne_true, firstError, firstError,
        List.findSome?_cons]
      simp only [Option.or_assoc, Option.some_or]

/-- What `send_retried` returns for the results of its attempts, of which there is at least one. -/
def retried (results : List (Except TransportError Unit)) : Except TransportError Unit :=
  if results.any Except.isOk then .ok () else results.headD (.ok ())

/-- **`send_retried`** fails only if every attempt does, with the error of the first. -/
theorem sendRetried_attempts (s : Session σ) :
    Session.sendRetried T packet s
      = (retried (attempts T packet (s.retries + 1) s.transport).1,
        { s with transport := (attempts T packet (s.retries + 1) s.transport).2 }) := by
  rw [Session.sendRetried, sendLoop_attempts, Option.none_or, Nat.zero_add, retried]
  cases hany : (attempts T packet (s.retries + 1) s.transport).1.any Except.isOk with
  | true =>
    have hpos := List.countP_pos_iff.mpr (List.any_eq_true.mp hany)
    obtain ⟨k, hk⟩ := Nat.exists_eq_succ_of_ne_zero (Nat.pos_iff_ne_zero.mp hpos)
    rw [hk]
    cases firstError (attempts T packet (s.retries + 1) s.transport).1 with
    | none => rfl
    | some e => rfl
  | false =>
    -- none succeeded, so the first failed
    rw [List.countP_eq_zero.mpr (List.any_eq_false.mp hany)]
    rw [attempts, List.any_cons, Bool.or_eq_false_iff] at hany
    rw [attempts, firstError, List.findSome?_cons]
    rcases hsend : T.send packet s.transport with ⟨_ | u, t₁⟩
    · rfl
    · rw [hsend] at hany
      cases hany.1

end Attempts

/-! ## A log of the sends -/

/-- One send: by which child, of what, and what came of it. -/
structure Sent where
  child : Nat
  packet : Bytes
  result : Except TransportError Unit

/-- Whether a send succeeded. -/
def Sent.isOk (sent : Sent) : Bool := sent.result.isOk

/-- What a failed send is reported as. -/
def Sent.failure? (sent : Sent) : Option String :=
  match sent.result with
  | .ok () => none
  | .error e => some e.display

variable {σ : Type}

/-- Child number `i` with a log of its sends. -/
def Sender.recorded (i : Nat) (send : Sender σ) : Sender (σ × List Sent) := fun packet s =>
  let r := send packet s.1
  (r.1, r.2, s.2 ++ [⟨i, packet, r.1⟩])

/-- Children numbered from `i` on, with a log of their sends. -/
def Sender.recordedFrom : Nat → List (Sender σ) → List (Sender (σ × List Sent))
  | _, [] => []
  | i, send :: senders => Sender.recorded i send :: recordedFrom (i + 1) senders

theorem Sender.length_recordedFrom (i : Nat) (senders : List (Sender σ)) :
    (Sender.recordedFrom i senders).length = senders.length := by
  induction senders generalizing i with
  | nil => rfl
  | cons send senders ih => rw [recordedFrom, List.length_cons, ih, List.length_cons]

namespace FanOut

/-- The same children with a log of what they send. -/
def recorded (f : FanOut σ) (log : List Sent) : FanOut (σ × List Sent) where
  multi := f.multi
  senders := Sender.recordedFrom 0 f.senders
  paired := by rw [Sender.length_recordedFrom]; exact f.paired
  state := (f.state, log)

variable (printable : Char → Bool)

/-- What `send` returns for the sends of one round. -/
def roundResult (round : List Sent) : Except TransportError Unit :=
  if round.any Sent.isOk then .ok ()
  else .error (allFailed printable (round.filterMap Sent.failure?))

/-- A round: every child once, in turn, with the packet. -/
def IsRound (n : Nat) (packet : Bytes) (round : List Sent) : Prop :=
  round.map (fun sent => (sent.child, sent.packet)) = (List.range n).map fun i => (i, packet)

/-! ## One round -/

/-- A child's turn adds to the failures or to the successes. -/
theorem sendChildren_cons (packet : Bytes) (send : Sender σ) (senders : List (Sender σ))
    (failures : List String) (successes : Nat) (s : σ) {sent : Sent}
    (hsent : sent.result = (send packet s).1) :
    sendChildren packet (send :: senders) failures successes s
      = sendChildren packet senders (failures ++ [sent].filterMap Sent.failure?)
          (successes + [sent].countP Sent.isOk) (send packet s).2 := by
  rcases sent with ⟨child, packet', result⟩
  cases hsent
  rw [sendChildren]
  rcases send packet s with ⟨_ | u, s₁⟩
  · rfl
  · show _ = sendChildren packet senders (failures ++ []) (successes + 1) s₁
    rw [List.append_nil]

/-- The loop of `send` with and without a log. -/
theorem sendChildren_recordedFrom (packet : Bytes) (senders : List (Sender σ)) :
    ∀ (i : Nat) (failures : List String) (successes : Nat) (s : σ) (log : List Sent),
    ∃ round s',
      round.map (fun sent => (sent.child, sent.packet))
        = (List.range' i senders.length).map (fun i => (i, packet)) ∧
      sendChildren packet senders failures successes s
        = (failures ++ round.filterMap Sent.failure?, successes + round.countP Sent.isOk, s') ∧
      sendChildren packet (Sender.recordedFrom i senders) failures successes (s, log)
        = (failures ++ round.filterMap Sent.failure?, successes + round.countP Sent.isOk,
            s', log ++ round) := by
  induction senders with
  | nil =>
    intro i failures successes s log
    exact ⟨[], s, rfl, by simp [sendChildren], by simp [sendChildren, Sender.recordedFrom]⟩
  | cons send senders ih =>
    intro i failures successes s log
    let sent : Sent := ⟨i, packet, (send packet s).1⟩
    have hsent : sent.result = (send packet s).1 := rfl
    have hrecorded : sent.result = (Sender.recorded i send packet (s, log)).1 := rfl
    obtain ⟨round, s', hround, hplain, hlog⟩ :=
      ih (i + 1) (failures ++ [sent].filterMap Sent.failure?) (successes + [sent].countP Sent.isOk)
        (send packet s).2 (log ++ [sent])
    refine ⟨[sent] ++ round, s', ?_, ?_, ?_⟩
    · rw [List.map_append, hround, List.length_cons, List.range'_succ]
      rfl
    · rw [sendChildren_cons packet send senders failures successes s hsent, hplain,
        List.filterMap_append, List.countP_append, List.append_assoc, Nat.add_assoc]
    · rw [Sender.recordedFrom, sendChildren_cons packet _ _ failures successes _ hrecorded,
        List.filterMap_append, List.countP_append, ← List.append_assoc, ← List.append_assoc,
        ← Nat.add_assoc]
      exact hlog

theorem send_of_sendChildren {packet : Bytes} {f : FanOut σ} {round : List Sent} {s' : σ}
    (h : sendChildren packet f.senders [] 0 f.state
      = (round.filterMap Sent.failure?, round.countP Sent.isOk, s')) :
    f.send printable packet = (roundResult printable round, { f with state := s' }) := by
  rw [send, h, roundResult]
  cases hany : round.any Sent.isOk with
  | true =>
    have hpos : 0 < round.countP Sent.isOk := List.countP_pos_iff.mpr (List.any_eq_true.mp hany)
    obtain ⟨k, hk⟩ := Nat.exists_eq_succ_of_ne_zero (Nat.pos_iff_ne_zero.mp hpos)
    rw [hk]
    rfl
  | false =>
    rw [List.countP_eq_zero.mpr (List.any_eq_false.mp hany)]
    rfl

/-- **One round.** -/
theorem send_round (packet : Bytes) (f : FanOut σ) (log : List Sent) :
    ∃ round s', IsRound f.senders.length packet round ∧
      f.send printable packet = (roundResult printable round, { f with state := s' }) ∧
      (f.recorded log).send printable packet
        = (roundResult printable round, recorded { f with state := s' } (log ++ round)) := by
  obtain ⟨round, s', hround, hplain, hlog⟩ :=
    sendChildren_recordedFrom packet f.senders 0 [] 0 f.state log
  rw [List.nil_append, Nat.zero_add] at hplain hlog
  refine ⟨round, s', ?_, send_of_sendChildren printable hplain, send_of_sendChildren printable hlog⟩
  rw [IsRound, hround, List.range_eq_range']

/-! ## Several rounds -/

/-- **Round after round**, with and without a log. -/
theorem attempts_fanOut (R : Transport (FanOut σ)) (R' : Transport (FanOut (σ × List Sent)))
    (packet : Bytes) (n : Nat) (f : FanOut σ) (log : List Sent) :
    ∃ (rounds : List (List Sent)) (s' : σ), rounds.length = n ∧
      (∀ round ∈ rounds, IsRound f.senders.length packet round) ∧
      attempts (transport printable R) packet n f
        = (rounds.map (roundResult printable), { f with state := s' }) ∧
      attempts (transport printable R') packet n (f.recorded log)
        = (rounds.map (roundResult printable),
            recorded { f with state := s' } (log ++ rounds.flatten)) := by
  induction n generalizing f log with
  | zero => exact ⟨[], f.state, rfl, by simp, rfl, by simp [attempts]⟩
  | succ n ih =>
    obtain ⟨round, s₁, hround, hplain, hlog⟩ := send_round printable packet f log
    obtain ⟨rounds, s', hlength, hrounds, hplain', hlog'⟩ :=
      ih { f with state := s₁ } (log ++ round)
    refine ⟨round :: rounds, s', by rw [List.length_cons, hlength],
      List.forall_mem_cons.mpr ⟨hround, hrounds⟩, ?_, ?_⟩
    · rw [attempts]
      simp only [transport] at hplain' ⊢
      rw [hplain, hplain', List.map_cons]
    · rw [attempts]
      simp only [transport] at hlog' ⊢
      rw [hlog, hlog', List.map_cons, List.flatten_cons, List.append_assoc]

/-- What `rounds` of sends and the result of `send_retried` say about it. -/
structure FannedOut (f : FanOut σ) (retries : Nat) (packet : Bytes)
    (rounds : List (List Sent)) (result : Except TransportError Unit) : Prop where
  /-- There are `retries + 1` rounds, each of which sends the packet on every child in turn, -/
  length : rounds.length = retries + 1
  round : ∀ round ∈ rounds, IsRound f.senders.length packet round
  /-- so that every child, retired or not, sends it `retries + 1` times and nothing else. -/
  child : ∀ i < f.senders.length,
    (rounds.flatten.filter fun sent => sent.child = i).map (fun sent => sent.packet)
      = List.replicate (retries + 1) packet
  /-- One success is enough. -/
  ok : result = .ok () ↔ ∃ sent ∈ rounds.flatten, sent.result = .ok ()
  /-- Without one, the error is that of the first round: it lists the failures of all children. -/
  error : (∀ sent ∈ rounds.flatten, sent.result ≠ .ok ()) →
    result = .error (allFailed printable ((rounds.headD []).filterMap Sent.failure?))

/-- A child has its turn once in a round. -/
theorem IsRound.filter_child {n : Nat} {packet : Bytes} {round : List Sent}
    (h : IsRound n packet round) {i : Nat} (hi : i < n) :
    (round.filter fun sent => sent.child = i).map (fun sent => sent.packet) = [packet] := by
  have hturns : (List.range n).filter (fun child => child = i) = [i] := by
    rw [List.filter_eq, List.count_eq_one_of_mem List.nodup_range (List.mem_range.mpr hi)]
    rfl
  have hpairs : (round.map fun sent => (sent.child, sent.packet)).filter (fun pair => pair.1 = i)
      = [(i, packet)] := by
    rw [h, List.filter_map]
    show ((List.range n).filter fun child => child = i).map _ = _
    rw [hturns]
    rfl
  rw [List.filter_map] at hpairs
  calc (round.filter fun sent => sent.child = i).map (fun sent => sent.packet)
      = ((round.filter fun sent => sent.child = i).map
          (fun sent => (sent.child, sent.packet))).map Prod.snd := by rw [List.map_map]; rfl
    _ = [packet] := by
      show ((round.filter ((fun pair : Nat × Bytes => decide (pair.1 = i)) ∘
        fun sent => (sent.child, sent.packet))).map _).map Prod.snd = _
      rw [hpairs]
      rfl

theorem roundResult_isOk (round : List Sent) :
    (roundResult printable round).isOk = round.any Sent.isOk := by
  unfold roundResult
  split
  · next hany => rw [hany]; rfl
  · next hany => rw [Bool.eq_false_iff.mpr hany]; rfl

theorem sent_isOk {sent : Sent} : sent.isOk = true ↔ sent.result = .ok () := by
  rcases sent with ⟨child, packet, _ | u⟩
  · simp [Sent.isOk, Except.isOk, Except.toBool]
  · simp [Sent.isOk, Except.isOk, Except.toBool]

/-- A child has its turn once in every round. -/
theorem filter_child_flatten {n : Nat} {packet : Bytes} {rounds : List (List Sent)}
    (h : ∀ round ∈ rounds, IsRound n packet round) {i : Nat} (hi : i < n) :
    (rounds.flatten.filter fun sent => sent.child = i).map (fun sent => sent.packet)
      = List.replicate rounds.length packet := by
  induction rounds with
  | nil => rfl
  | cons round rounds ih =>
    obtain ⟨hround, hrounds⟩ := List.forall_mem_cons.mp h
    rw [List.flatten_cons, List.filter_append, List.map_append, hround.filter_child hi, ih hrounds,
      List.length_cons, List.replicate_succ, List.singleton_append]

theorem retried_rounds {rounds : List (List Sent)} (hrounds : rounds ≠ []) :
    retried (rounds.map (roundResult printable))
      = if ∃ sent ∈ rounds.flatten, sent.result = .ok () then .ok ()
        else .error (allFailed printable ((rounds.headD []).filterMap Sent.failure?)) := by
  have hany : (rounds.map (roundResult printable)).any Except.isOk = true
      ↔ ∃ sent ∈ rounds.flatten, sent.result = .ok () := by
    simp only [List.any_map, List.any_eq_true, Function.comp_apply, roundResult_isOk, sent_isOk,
      List.mem_flatten]
    constructor
    · rintro ⟨round, hround, sent, hsent, hok⟩
      exact ⟨sent, ⟨round, hround, hsent⟩, hok⟩
    · rintro ⟨sent, ⟨round, hround, hsent⟩, hok⟩
      exact ⟨round, hround, sent, hsent, hok⟩
  unfold retried
  by_cases h : ∃ sent ∈ rounds.flatten, sent.result = .ok ()
  · rw [if_pos h, if_pos (hany.mpr h)]
  · rw [if_neg h, if_neg (mt hany.mp h)]
    obtain ⟨first, rest, rfl⟩ := List.exists_cons_of_ne_nil hrounds
    -- the first round has failed as a whole
    have hfirst : ¬ first.any Sent.isOk = true := by
      rw [List.any_eq_true]
      rintro ⟨sent, hsent, hok⟩
      exact h ⟨sent, List.mem_flatten.mpr ⟨first, List.mem_cons_self, hsent⟩, sent_isOk.mp hok⟩
    rw [List.map_cons, List.headD_cons, List.headD_cons, roundResult, if_neg hfirst]

/-- **Every send of a retried packet**: over a `MultiTransport` of any children, whichever of them
`recv` has retired, and whatever each send of each of them comes to. Without the log the result and
the children's state are the same. -/
theorem sendRetried_fanOut (R : Transport (FanOut σ)) (R' : Transport (FanOut (σ × List Sent)))
    (f : FanOut σ) (retries : Nat) (sequence : UInt16) (packet : Bytes) :
    ∃ (rounds : List (List Sent)) (s' : σ) (result : Except TransportError Unit),
      Session.sendRetried (transport printable R) packet ⟨f, retries, sequence⟩
        = (result, ⟨{ f with state := s' }, retries, sequence⟩) ∧
      Session.sendRetried (transport printable R') packet ⟨f.recorded [], retries, sequence⟩
        = (result, ⟨recorded { f with state := s' } rounds.flatten, retries, sequence⟩) ∧
      FannedOut printable f retries packet rounds result := by
  obtain ⟨rounds, s', hlength, hrounds, hplain, hlog⟩ :=
    attempts_fanOut printable R R' packet (retries + 1) f []
  have hne : rounds ≠ [] := List.ne_nil_of_length_eq_add_one hlength
  have hresult := retried_rounds printable hne
  refine ⟨rounds, s', retried (rounds.map (roundResult printable)), ?_, ?_, hlength, hrounds, ?_, ?_,
    ?_⟩
  · rw [sendRetried_attempts]
    simp only [hplain]
  · rw [sendRetried_attempts]
    simp only [hlog, List.nil_append]
  · intro i hi
    rw [← hlength]
    exact filter_child_flatten hrounds hi
  · rw [hresult]
    split
    · next h => exact iff_of_true rfl h
    · next h => exact iff_of_false (fun hok => by cases hok) h
  · intro hfail
    rw [hresult, if_neg]
    rintro ⟨sent, hsent, hok⟩
    exact hfail sent hsent hok

end FanOut

end Udap
