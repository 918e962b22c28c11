import Mathlib.Logic.Function.Basic
import Udapcfg.Properties.Discovery
import Udapcfg.Properties.Simulation
import Udapcfg.Udap.ClientCalls

/-!
# What a client knows

The registry is the result of discovery and no mirror of the devices. What it knows at any moment of
a program is what it has heard and not given away since; operations have nothing to do with it.

* `Ledger` — what is known and what was taken, as a history of both makes it
* `run_ledger` — a client and its devices keep to it
* `known_foldl_iff` — the last word on a MAC
* `client_history` — both for any program
-/

namespace Udap

open Infra

/-! ## Histories -/

/-- What matters to the registry: the datagrams of a discovery, and a device that is taken. -/
inductive Entry where
  | heard (ds : List Datagram)
  | took (mac : Mac)

/-- The entry is about this MAC. -/
def Entry.Concerns (mac : Mac) : Entry → Prop
  | .heard ds => lastAnnounced ds mac ≠ none
  | .took mac' => mac' = mac

/-- A device without its cache. -/
def Device.blank (device : Device) : Device := { device with parameters := OrdMap.empty }

/-- What is known, by MAC, and what was taken, in order. -/
structure Ledger where
  known : Mac → Option Device
  taken : List Device

def Ledger.apply (l : Ledger) : Entry → Ledger
  | .heard ds => { l with known := fun mac => (lastAnnounced ds mac).or (l.known mac) }
  | .took mac => ⟨Function.update l.known mac none,
      l.taken ++ ((l.known mac).map Device.blank).toList⟩

theorem Ledger.known_apply_of_not_concerns {l : Ledger} {entry : Entry} {mac : Mac}
    (h : ¬ entry.Concerns mac) : (l.apply entry).known mac = l.known mac := by
  cases entry with
  | heard ds =>
    have hnone : lastAnnounced ds mac = none := not_not.mp h
    simp only [apply, hnone, Option.none_or]
  | took mac' => exact Function.update_of_ne (Ne.symm h) _ _

/-- What was said last of a MAC, entry by entry. -/
def LastWord (entries : List Entry) (mac : Mac) (device : Device) : Prop :=
  ∃ before ds after, entries = before ++ .heard ds :: after ∧
    lastAnnounced ds mac = some device ∧ ∀ entry ∈ after, ¬ entry.Concerns mac

theorem lastWord_append_singleton {entries : List Entry} {entry : Entry} {mac : Mac}
    {device : Device} : LastWord (entries ++ [entry]) mac device ↔
      (∃ ds, entry = .heard ds ∧ lastAnnounced ds mac = some device) ∨
      (¬ entry.Concerns mac ∧ LastWord entries mac device) := by
  constructor
  · rintro ⟨before, ds, after, hsplit, hlast, hafter⟩
    rcases List.eq_nil_or_concat after with rfl | ⟨after, last, rfl⟩
    · obtain ⟨_, hentry⟩ := List.append_inj' hsplit rfl
      exact .inl ⟨ds, (List.cons.inj hentry).1, hlast⟩
    · rw [List.concat_eq_append] at hsplit hafter
      rw [← List.cons_append, ← List.append_assoc] at hsplit
      obtain ⟨hentries, hentry⟩ := List.append_inj' hsplit rfl
      rw [(List.cons.inj hentry).1]
      exact .inr ⟨hafter last (List.mem_append_right _ List.mem_cons_self), before, ds, after, hentries,
        hlast, fun e he => hafter e (List.mem_append_left _ he)⟩
  · rintro (⟨ds, rfl, hlast⟩ | ⟨hconcerns, before, ds, after, rfl, hlast, hafter⟩)
    · exact ⟨entries, ds, [], rfl, hlast, fun e he => by cases he⟩
    · refine ⟨before, ds, after ++ [entry], by simp, hlast, ?_⟩
      intro e he
      rcases List.mem_append.mp he with he | he
      · exact hafter e he
      · rwa [List.mem_singleton.mp he]

/-- **The last word on a MAC**: it is known as what was heard of it last, unless it was taken since,
or as what it was known before. -/
theorem Ledger.known_foldl_iff {l : Ledger} {entries : List Entry} {mac : Mac} {device : Device} :
    (entries.foldl apply l).known mac = some device ↔ LastWord entries mac device ∨
      ((∀ entry ∈ entries, ¬ entry.Concerns mac) ∧ l.known mac = some device) := by
  induction entries using List.reverseRecOn with
  | nil => simp [LastWord]
  | append_singleton entries entry ih =>
    rw [List.foldl_concat, lastWord_append_singleton]
    by_cases hconcerns : entry.Concerns mac
    · -- an entry that is about the MAC decides
      have hnot : ¬ ∀ e ∈ entries ++ [entry], ¬ e.Concerns mac :=
        fun h => h entry (List.mem_append_right _ List.mem_cons_self) hconcerns
      simp only [hconcerns, not_true_eq_false, false_and, or_false, hnot]
      cases entry with
      | heard ds =>
        obtain ⟨d, hd⟩ := Option.ne_none_iff_exists'.mp hconcerns
        simp [apply, hd]
      | took mac' =>
        cases hconcerns
        simp [apply]
    · rw [known_apply_of_not_concerns hconcerns, ih]
      have hnot : ¬ ∃ ds, entry = .heard ds ∧ lastAnnounced ds mac = some device := by
        rintro ⟨ds, rfl, hlast⟩
        exact hconcerns (by simp [Entry.Concerns, hlast])
      simp [hconcerns, hnot, or_imp, forall_and]

/-! ## Programs -/

variable {σ : Type} {T : Transport σ}

/-- The history an action adds. A discovery whose packet is not sent hears nothing. -/
def Program.entries (T : Transport σ) (p : Program σ) : Action → List Entry
  | .discover =>
    match p.client.sendDiscovery T with
    | (.ok (), s) => [.heard (T.drain s.transport).1]
    | (.error _, _) => []
  | .take mac => [.took mac]
  | .call _ _ => []

/-- The history of a run. -/
def Program.history (T : Transport σ) : Program σ → List Action → List Entry
  | _, [] => []
  | p, action :: rest => p.entries T action ++ history T (p.act T action) rest

/-- What a program knows and has taken. -/
def Program.ledger (p : Program σ) : Ledger where
  known := p.client.devices.byMac.get?
  taken := p.held.map Device.blank

theorem get?_remove (r : Registry) (mac mac' : Mac) :
    (r.remove mac).byMac.get? mac' = Function.update r.byMac.get? mac none mac' := by
  rw [Registry.remove, OrdMap.get?_retain]
  by_cases h : mac' = mac
  · subst h
    simp
  · simp [h]

/-- **One action.** -/
theorem ledger_act (p : Program σ) (action : Action) :
    (p.act T action).ledger = (p.entries T action).foldl Ledger.apply p.ledger := by
  cases action with
  | discover =>
    rw [Program.act, Program.entries]
    rcases hsend : p.client.sendDiscovery T with ⟨e | u, s⟩
    · rw [Client.discover_of_error T hsend]
      rfl
    · rw [Client.discover_eq T hsend]
      have hknown : (((T.drain s.transport).1.foldl Registry.handleDiscoveryReply
          p.client.devices).byMac.get?) = fun mac =>
            (lastAnnounced (T.drain s.transport).1 mac).or (p.client.devices.byMac.get? mac) :=
        funext fun mac => get?_foldl_handleDiscoveryReply _ _ mac
      simp only [Program.ledger, hknown, List.foldl_cons, List.foldl_nil, Ledger.apply]
  | take mac =>
    have hknown : (p.client.devices.remove mac).byMac.get?
        = Function.update p.client.devices.byMac.get? mac none := funext (get?_remove _ mac)
    simp only [Program.act, Program.entries, Program.ledger, Client.takeDevice, hknown, List.foldl_cons,
      List.foldl_nil, Ledger.apply, List.map_append]
    cases p.client.devices.byMac.get? mac <;> rfl
  | call index call =>
    rw [Program.act, Program.entries]
    cases hheld : p.held[index]? with
    | none => rfl
    | some device =>
      obtain ⟨hlt, hget⟩ := List.getElem?_eq_some_iff.mp hheld
      obtain ⟨m, hm⟩ := run_device (T := T) call device p.client.session
      -- the registry is not touched, and the device changes in its cache only
      have hheld : (p.held.set index { device with parameters := m }).map Device.blank
          = p.held.map Device.blank := by
        rw [List.map_set]
        refine List.ext_getElem (by simp) ?_
        intro k hk hk'
        rw [List.getElem_set]
        split
        · next heq =>
          subst heq
          rw [List.getElem_map, hget]
          rfl
        · rfl
      simp only [Program.ledger, Client.call_eq, hm, hheld, List.foldl_nil]

/-- **A run.** -/
theorem run_ledger (p : Program σ) (actions : List Action) :
    (p.run T actions).ledger = (p.history T actions).foldl Ledger.apply p.ledger := by
  induction actions generalizing p with
  | nil => rfl
  | cons action rest ih => rw [Program.run, Program.history, List.foldl_append, ih, ledger_act]

/-- **A client knows what it has heard and not given away**: at the end of a program a MAC has the
entry of the last discovery that heard of it, unless its device was taken since. The devices the
program holds are those that were known when they were taken, but for their caches. -/
theorem client_history (T : Transport σ) (p : Program σ) (actions : List Action) :
    let history := p.history T actions
    (∀ mac device, (p.run T actions).client.devices.byMac.get? mac = some device ↔
      LastWord history mac device ∨ ((∀ entry ∈ history, ¬ entry.Concerns mac) ∧
        p.client.devices.byMac.get? mac = some device)) ∧
    (p.run T actions).held.map Device.blank = (history.foldl Ledger.apply p.ledger).taken := by
  intro history
  have hrun := run_ledger (T := T) p actions
  refine ⟨?_, congrArg Ledger.taken hrun⟩
  intro mac device
  have hknown := congrFun (congrArg Ledger.known hrun) mac
  exact (Eq.congr_left hknown).trans Ledger.known_foldl_iff

end Udap
