import Mathlib.Data.List.TakeDrop

/-!
# A queue that grows faster than it is read

Every request puts several copies of its answer at the end of a queue and then takes one answer
from the front. What it takes is seldom its own.

* `serve_eq` — what is taken, all together, is the front of what was ever queued
* `getElem?_serve` — from an empty queue the request number `k` takes an answer to `k / copies`
-/

namespace Infra

namespace Backlog

variable {α : Type}

/-- What each request takes from the queue. -/
def serve (copies : Nat) : List α → List α → List α
  | _, [] => []
  | queue, answer :: rest =>
    match queue ++ List.replicate copies answer with
    | [] => []
    | taken :: queue => taken :: serve copies queue rest

/-- **What is taken is the front of what was queued.** -/
theorem serve_eq {copies : Nat} (h : 0 < copies) : ∀ (queue answers : List α),
    serve copies queue answers
      = (queue ++ answers.flatMap (List.replicate copies)).take answers.length
  | _, [] => by simp [serve]
  | queue, answer :: rest => by
    unfold serve
    cases hq : queue ++ List.replicate copies answer with
    | nil =>
      have hlen := congrArg List.length hq
      simp only [List.length_append, List.length_replicate, List.length_nil] at hlen
      omega
    | cons taken queue' =>
      have ih := serve_eq h queue' rest
      rw [List.flatMap_cons, ← List.append_assoc, hq, List.cons_append, List.length_cons,
        List.take_succ_cons]
      exact congrArg _ ih

/-- Copies in a row are counted off by division. -/
theorem getElem?_flatMap_replicate {copies : Nat} (h : 0 < copies) : ∀ (answers : List α) (k : Nat),
    (answers.flatMap (List.replicate copies))[k]? = answers[k / copies]?
  | [], _ => by simp
  | answer :: rest, k => by
    rw [List.flatMap_cons]
    by_cases hk : k < copies
    · rw [List.getElem?_append_left (by simpa using hk), Nat.div_eq_of_lt hk]
      simp [hk]
    · have hdiv : k / copies = (k - copies) / copies + 1 := by
        rw [← Nat.sub_add_cancel (Nat.le_of_not_lt hk), Nat.add_div_right _ h]
        simp
      rw [List.getElem?_append_right (by simpa using hk), List.length_replicate,
        getElem?_flatMap_replicate h rest, hdiv, List.getElem?_cons_succ]

/-- **From an empty queue** a request takes the answer its number points to. -/
theorem getElem?_serve {copies : Nat} (h : 0 < copies) (answers : List α) {k : Nat}
    (hk : k < answers.length) : (serve copies [] answers)[k]? = answers[k / copies]? := by
  rw [serve_eq h, List.nil_append, List.getElem?_take_of_lt hk, getElem?_flatMap_replicate h]

theorem length_serve {copies : Nat} (h : 0 < copies) : ∀ (queue answers : List α),
    (serve copies queue answers).length = answers.length
  | _, [] => rfl
  | queue, answer :: rest => by
    unfold serve
    split
    · next hq =>
      have hlen := congrArg List.length hq
      simp only [List.length_append, List.length_replicate, List.length_nil] at hlen
      omega
    · rw [List.length_cons, List.length_cons, length_serve h _ rest]

/-- One copy each: every request takes its own answer. -/
theorem serve_one : ∀ (answers : List α), serve 1 [] answers = answers
  | [] => rfl
  | answer :: rest => congrArg (answer :: ·) (serve_one rest)

end Backlog

end Infra
