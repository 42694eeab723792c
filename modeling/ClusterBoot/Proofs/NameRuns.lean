/-
  ClusterBoot.Proofs.NameRuns
  ────────────────────────────────
  **NAMES ACCUMULATE.**

  The names of a document change in steps: an address is merged under a policy
  on duplicates, or the names are turned into a list.  A step that takes effect
  makes them a list with the old addresses in front (`apply_effective`), and any
  other step changes nothing (`apply_idle`); so in a run of steps addresses are
  never lost, a value that fits no form is dropped by the first step that takes
  effect, and what is listed in the end depends on the addresses alone, not on
  where the other steps stood (`run_names`).  `names_accumulate` puts this
  together for all runs.
-/
import ClusterBoot.Proofs.CertificateNames
import ClusterBoot.Proofs.Pieces

namespace ClusterBoot

/-! ## §1. The addresses that a setting lists. -/

/-- Which addresses a setting lists.  A text lists its segments between commas,
trimmed, unless nothing is left of them. -/
inductive Setting.ListsAddresses : Setting → List String → Prop
  | absent : ListsAddresses .absent []
  | single {text : String} {segments : List String} (h : Text.Segments ',' text segments) :
      ListsAddresses (.single text) ((segments.map Text.trim).filter (· ≠ ""))
  | list (items : List String) : ListsAddresses (.list items) items
  | other (value : Yaml.Value) : ListsAddresses (.other value) []

/-- A setting lists its addresses and nothing else. -/
theorem Setting.listsAddresses_iff {setting : Setting} {base : List String} :
    setting.ListsAddresses base ↔ base = setting.addresses := by
  constructor
  · intro h
    cases h with
    | absent => rfl
    | single h => rw [Text.segments_iff.1 h]; rfl
    | list items => rfl
    | other value => rfl
  · rintro rfl
    cases setting with
    | absent => exact .absent
    | single text => exact .single (Text.segments_iff.2 rfl)
    | list items => exact .list items
    | other value => exact .other value

/-! ## §2. One step. -/

/-- A step that may change the names of a document. -/
inductive NameStep where
  /-- An address is added under a policy on duplicates. -/
  | merge (policy : TlsSanPolicy) (address : String)
  /-- The names become a list. -/
  | normalize
  deriving DecidableEq, Repr

namespace NameStep

/-- The document after a step, and the warning that the step brings. -/
def apply : NameStep → RoleDocument → RoleDocument × Option Warning
  | merge policy address, doc => doc.mergeTlsSan policy address
  | normalize, doc => doc.normalizeTlsSan

/-- Whether a step takes effect on names: there must be an address to add, or
names to turn into a list. -/
def Effective : NameStep → Setting → Prop
  | merge _ address, _ => address ≠ ""
  | normalize, names => names ≠ .absent

/-- The address that a step offers. -/
def offered? : NameStep → Option String
  | merge _ address => if address = "" then none else some address
  | normalize => none

/-- A list of addresses after a step. -/
def extend : NameStep → List String → List String
  | merge policy address, list => if address = "" then list else policy.add address list
  | normalize, list => list

/-- The step with another policy. -/
def under (policy : TlsSanPolicy) : NameStep → NameStep
  | merge _ address => merge policy address
  | normalize => normalize

section Step

variable {step : NameStep} {doc : RoleDocument}

/-- **A step that takes effect** makes the names a list, and drops what fits no
form. -/
theorem apply_effective (h : step.Effective doc.tlsSan) :
    step.apply doc
      = ({ doc with tlsSan := .list (step.extend doc.tlsSan.addresses) },
          doc.tlsSan.discarded?) := by
  cases step with
  | merge policy address =>
      have hne : address ≠ "" := h
      rw [apply, RoleDocument.mergeTlsSan, if_neg hne, extend, if_neg hne]
  | normalize =>
      have hpresent : doc.tlsSan ≠ .absent := h
      rw [apply, RoleDocument.normalizeTlsSan, if_neg hpresent, extend]

/-- **Any other step** leaves the document alone. -/
theorem apply_idle (h : ¬ step.Effective doc.tlsSan) :
    step.apply doc = (doc, if step = normalize then none else some .emptyAddress)
      ∧ ∀ list, step.extend list = list := by
  cases step with
  | merge policy address =>
      have hempty : address = "" := Classical.not_not.1 h
      rw [apply, RoleDocument.mergeTlsSan, if_pos hempty, if_neg (by simp)]
      exact ⟨rfl, fun list => if_pos hempty⟩
  | normalize =>
      have habsent : doc.tlsSan = .absent := Classical.not_not.1 h
      rw [apply, RoleDocument.normalizeTlsSan, if_pos habsent, if_pos rfl]
      exact ⟨rfl, fun list => rfl⟩

/-- A step changes the names only. -/
theorem apply_others : (step.apply doc).1 = { doc with tlsSan := (step.apply doc).1.tlsSan } := by
  by_cases h : step.Effective doc.tlsSan
  · rw [apply_effective h]
  · rw [(apply_idle h).1]

/-- A step puts new addresses behind the others. -/
theorem extend_prefix (step : NameStep) (list : List String) :
    ∃ more, step.extend list = list ++ more := by
  have hnone : ∃ more, list = list ++ more := ⟨[], (List.append_nil list).symm⟩
  cases step with
  | normalize => exact hnone
  | merge policy address =>
      rw [extend]
      split
      · exact hnone
      · cases policy with
        | append => exact ⟨[address], rfl⟩
        | deduplicate =>
            rw [TlsSanPolicy.add]
            split
            · exact hnone
            · exact ⟨[address], rfl⟩

/-- Names that are a list stay one. -/
theorem tlsSan_apply_list {names : List String} (h : doc.tlsSan = .list names) :
    (step.apply doc).1.tlsSan = .list (step.extend names) := by
  by_cases heffective : step.Effective doc.tlsSan
  · rw [apply_effective heffective, h, Setting.addresses]
  · rw [(apply_idle heffective).1, (apply_idle heffective).2, h]

/-- An empty address is reported, and nothing else is reported in that way. -/
theorem apply_emptyAddress_iff :
    (step.apply doc).2 = some .emptyAddress ↔ ∃ policy, step = merge policy "" := by
  cases step with
  | merge policy address =>
      by_cases hempty : address = ""
      · simp [apply, RoleDocument.mergeTlsSan, hempty]
      · cases hnames : doc.tlsSan <;>
          simp [apply, RoleDocument.mergeTlsSan, hempty, hnames, Setting.discarded?]
  | normalize =>
      by_cases habsent : doc.tlsSan = .absent
      · simp [apply, RoleDocument.normalizeTlsSan, habsent]
      · cases hnames : doc.tlsSan <;>
          simp_all [apply, RoleDocument.normalizeTlsSan, Setting.discarded?]

/-- A value that fits no form is dropped by a step that takes effect. -/
theorem apply_discarded_iff {old : Yaml.Value} :
    (step.apply doc).2 = some (.discardedTlsSan old)
      ↔ step.Effective doc.tlsSan ∧ doc.tlsSan = .other old := by
  by_cases heffective : step.Effective doc.tlsSan
  · rw [apply_effective heffective]
    cases hnames : doc.tlsSan <;> simp_all [Setting.discarded?]
  · rw [(apply_idle heffective).1]
    cases step <;> simp [heffective]

end Step

/-! ## §3. Runs. -/

/-- The document after several steps, and what each of them answered. -/
def run : List NameStep → RoleDocument → RoleDocument × List (Option Warning)
  | [], doc => (doc, [])
  | step :: steps, doc =>
      let (doc, answer) := step.apply doc
      let (doc, answers) := run steps doc
      (doc, answer :: answers)

/-- The document after the first steps of a run. -/
def stateAt (steps : List NameStep) (doc : RoleDocument) (i : Nat) : RoleDocument :=
  (run (steps.take i) doc).1

/-- The step at a position takes effect. -/
def EffectiveAt (steps : List NameStep) (doc : RoleDocument) (i : Nat) : Prop :=
  ∃ step, steps[i]? = some step ∧ step.Effective (stateAt steps doc i).tlsSan

/-- The step at a position is the first that takes effect. -/
def FirstEffectiveAt (steps : List NameStep) (doc : RoleDocument) (i : Nat) : Prop :=
  EffectiveAt steps doc i ∧ ∀ j < i, ¬ EffectiveAt steps doc j

/-- All addresses are added under one policy. -/
def AllUnder (policy : TlsSanPolicy) (steps : List NameStep) : Prop :=
  ∀ other address, merge other address ∈ steps → other = policy

/-- The addresses that are offered in a run. -/
def offered (steps : List NameStep) : List String :=
  steps.filterMap offered?

section Run

variable {steps : List NameStep} {doc : RoleDocument}

theorem length_answers : (run steps doc).2.length = steps.length := by
  induction steps generalizing doc with
  | nil => rfl
  | cons step steps ih =>
      show (run steps (step.apply doc).1).2.length + 1 = _
      rw [ih, List.length_cons]

/-- A step answers what it answers on the document before it. -/
theorem answer_at (i : Nat) :
    (run steps doc).2[i]? = steps[i]?.map fun step => (step.apply (stateAt steps doc i)).2 := by
  induction steps generalizing doc i with
  | nil => rfl
  | cons step steps ih =>
      cases i with
      | zero => rfl
      | succ i => exact @ih (step.apply doc).1 i

/-- A step changes the document before it. -/
theorem stateAt_succ {step : NameStep} {i : Nat} (h : steps[i]? = some step) :
    stateAt steps doc (i + 1) = (step.apply (stateAt steps doc i)).1 := by
  induction steps generalizing doc i with
  | nil => exact absurd h (by simp)
  | cons first steps ih =>
      cases i with
      | zero =>
          obtain rfl := Option.some.inj h
          rfl
      | succ i => exact @ih (first.apply doc).1 i h

/-- After the last step nothing changes. -/
theorem stateAt_succ_of_none {i : Nat} (h : steps[i]? = none) :
    stateAt steps doc (i + 1) = stateAt steps doc i := by
  have hlength : steps.length ≤ i := List.getElem?_eq_none_iff.1 h
  rw [stateAt, stateAt, List.take_of_length_le hlength,
      List.take_of_length_le (Nat.le_succ_of_le hlength)]

theorem stateAt_length : stateAt steps doc steps.length = (run steps doc).1 := by
  rw [stateAt, List.take_length]

/-- What holds of the start and is kept by every step holds all along. -/
theorem stateAt_induction {P : RoleDocument → Prop} {i j : Nat} (hij : i ≤ j)
    (hstart : P (stateAt steps doc i))
    (hstep : ∀ (step : NameStep) (d : RoleDocument), P d → P (step.apply d).1) :
    P (stateAt steps doc j) := by
  induction hij with
  | refl => exact hstart
  | @step j _ ih =>
      cases hj : steps[j]? with
      | none => rwa [stateAt_succ_of_none hj]
      | some step =>
          rw [stateAt_succ hj]
          exact hstep step _ ih

/-- **A run changes the names only.** -/
theorem stateAt_others (i : Nat) :
    stateAt steps doc i = { doc with tlsSan := (stateAt steps doc i).tlsSan } := by
  refine stateAt_induction (P := fun d => d = { doc with tlsSan := d.tlsSan }) (Nat.zero_le i) rfl
    fun step d hd => ?_
  rw [apply_others, hd]

/-- **Names that are a list only become longer.** -/
theorem stateAt_list {i j : Nat} (hij : i ≤ j) {names : List String}
    (h : (stateAt steps doc i).tlsSan = .list names) :
    ∃ more, (stateAt steps doc j).tlsSan = .list (names ++ more) := by
  refine stateAt_induction (P := fun d => ∃ more, d.tlsSan = .list (names ++ more)) hij
    ⟨[], by rw [h, List.append_nil]⟩ fun step d hd => ?_
  obtain ⟨more, hmore⟩ := hd
  obtain ⟨new, hnew⟩ := step.extend_prefix (names ++ more)
  exact ⟨more ++ new, by rw [tlsSan_apply_list hmore, hnew, List.append_assoc]⟩

/-- Until a step takes effect the document stays as it is. -/
theorem stateAt_idle {i : Nat} (h : ∀ j < i, ¬ EffectiveAt steps doc j) :
    stateAt steps doc i = doc := by
  induction i with
  | zero => rfl
  | succ i ih =>
      have hsame := ih fun j hj => h j (Nat.lt_succ_of_lt hj)
      cases hi : steps[i]? with
      | none => rw [stateAt_succ_of_none hi, hsame]
      | some step =>
          have hidle : ¬ step.Effective (stateAt steps doc i).tlsSan := fun heffective =>
            h i (Nat.lt_succ_self i) ⟨step, hi, heffective⟩
          rw [stateAt_succ hi, (apply_idle hidle).1, hsame]

/-- After a step that takes effect the names are a list. -/
theorem stateAt_effective {i j : Nat} (hij : i < j) (h : EffectiveAt steps doc i) :
    ∃ names, (stateAt steps doc j).tlsSan = .list names := by
  obtain ⟨step, hi, heffective⟩ := h
  have hlist : (stateAt steps doc (i + 1)).tlsSan
      = .list (step.extend (stateAt steps doc i).tlsSan.addresses) := by
    rw [stateAt_succ hi, apply_effective heffective]
  obtain ⟨more, hmore⟩ := stateAt_list hij hlist
  exact ⟨_, hmore⟩

/-- **The value that fits no form is dropped once**, by the first step that takes
effect. -/
theorem answer_discarded_iff {i : Nat} {old : Yaml.Value} :
    (run steps doc).2[i]? = some (some (.discardedTlsSan old))
      ↔ doc.tlsSan = .other old ∧ FirstEffectiveAt steps doc i := by
  rw [answer_at, Option.map_eq_some_iff]
  simp only [apply_discarded_iff]
  constructor
  · rintro ⟨step, hi, heffective, hold⟩
    -- an earlier step that takes effect would have made the names a list
    have hfirst : ∀ j < i, ¬ EffectiveAt steps doc j := by
      intro j hj hearlier
      obtain ⟨names, hnames⟩ := stateAt_effective hj hearlier
      rw [hold] at hnames
      cases hnames
    exact ⟨by rwa [stateAt_idle hfirst] at hold, ⟨step, hi, heffective⟩, hfirst⟩
  · rintro ⟨hold, ⟨step, hi, heffective⟩, hfirst⟩
    exact ⟨step, hi, heffective, by rw [stateAt_idle hfirst, hold]⟩

/-- The steps of a run but the first are a run from the document after it. -/
theorem exists_effectiveAt_cons {step : NameStep} :
    (∃ i, EffectiveAt (step :: steps) doc i)
      ↔ step.Effective doc.tlsSan ∨ ∃ i, EffectiveAt steps (step.apply doc).1 i := by
  constructor
  · rintro ⟨i, hi⟩
    cases i with
    | zero =>
        obtain ⟨first, hfirst, heffective⟩ := hi
        obtain rfl := Option.some.inj hfirst
        exact .inl heffective
    | succ i => exact .inr ⟨i, hi⟩
  · rintro (h | ⟨i, hi⟩)
    · exact ⟨0, step, rfl, h⟩
    · exact ⟨i + 1, hi⟩

/-! ## §4. What is listed in the end. -/

/-- A list of addresses after several steps. -/
def extendAll (steps : List NameStep) (list : List String) : List String :=
  steps.foldl (fun list step => step.extend list) list

theorem run_list {names : List String} (h : doc.tlsSan = .list names) :
    (run steps doc).1.tlsSan = .list (extendAll steps names) := by
  induction steps generalizing doc names with
  | nil => exact h
  | cons step steps ih => exact ih (tlsSan_apply_list h)

/-- **The names at the end of a run**: steps that do not take effect do not count,
and neither does where the others stood. -/
theorem run_names (h : ∃ i, EffectiveAt steps doc i) :
    (run steps doc).1.tlsSan = .list (extendAll steps doc.tlsSan.addresses) := by
  induction steps generalizing doc with
  | nil =>
      obtain ⟨i, step, hi, -⟩ := h
      exact absurd hi (by simp)
  | cons step steps ih =>
      show (run steps (step.apply doc).1).1.tlsSan
        = .list (extendAll steps (step.extend doc.tlsSan.addresses))
      by_cases heffective : step.Effective doc.tlsSan
      · rw [apply_effective heffective]
        exact run_list rfl
      · have hlater := (exists_effectiveAt_cons.1 h).resolve_left heffective
        rw [ih hlater, (apply_idle heffective).1, (apply_idle heffective).2]

/-- Under one policy the addresses that are offered are added one after the
other. -/
theorem extendAll_under {policy : TlsSanPolicy} (h : AllUnder policy steps) (list : List String) :
    extendAll steps list = policy.addAll list (offered steps) := by
  induction steps generalizing list with
  | nil => rfl
  | cons step steps ih =>
      have hrest : AllUnder policy steps := fun other address hmem =>
        h other address (List.mem_cons_of_mem _ hmem)
      show extendAll steps (step.extend list) = _
      rw [ih hrest]
      cases step with
      | normalize => rfl
      | merge other address =>
          obtain rfl := h other address List.mem_cons_self
          by_cases hempty : address = ""
          · simp [offered, offered?, extend, hempty]
          · simp [offered, offered?, extend, hempty, TlsSanPolicy.addAll]

theorem allUnder_under (policy : TlsSanPolicy) (steps : List NameStep) :
    AllUnder policy (steps.map (under policy)) := by
  intro other address hmem
  obtain ⟨step, -, hstep⟩ := List.mem_map.1 hmem
  cases step with
  | merge => exact (NameStep.merge.inj hstep).1.symm
  | normalize => cases hstep

theorem offered_under (policy : TlsSanPolicy) (steps : List NameStep) :
    offered (steps.map (under policy)) = offered steps := by
  have hsame : offered? ∘ under policy = offered? := by
    funext step
    cases step <;> rfl
  rw [offered, offered, List.filterMap_map, hsame]

/-- Whether a step takes effect does not depend on its policy. -/
theorem effective_under {policy : TlsSanPolicy} {step : NameStep} {names : Setting} :
    (step.under policy).Effective names ↔ step.Effective names := by
  cases step <;> rfl

/-- A run takes effect under any policy or under none. -/
theorem exists_effectiveAt_under {policy : TlsSanPolicy} :
    (∃ i, EffectiveAt (steps.map (under policy)) doc i) ↔ ∃ i, EffectiveAt steps doc i := by
  induction steps with
  | nil => rfl
  | cons step steps ih =>
      rw [List.map_cons, exists_effectiveAt_cons, exists_effectiveAt_cons, effective_under]
      -- if the first step takes effect, there is nothing more to show
      by_cases heffective : step.Effective doc.tlsSan
      · simp [heffective]
      · rw [(apply_idle heffective).1, (apply_idle (mt effective_under.1 heffective)).1, ih]

/-- Steps that offer what is listed already leave a list alone. -/
theorem run_settled {names : List String} (h : doc.tlsSan = .list names)
    (hpolicy : AllUnder .deduplicate steps) (hlisted : ∀ a ∈ offered steps, a ∈ names) :
    (run steps doc).1 = doc := by
  have hnames : (run steps doc).1.tlsSan = doc.tlsSan := by
    rw [run_list h, extendAll_under hpolicy, TlsSanPolicy.addAll_deduplicate hlisted, h]
  have hothers : stateAt steps doc steps.length = { doc with tlsSan := _ } :=
    stateAt_others steps.length
  rw [stateAt_length, hnames] at hothers
  exact hothers

end Run

end NameStep

/-- A list without duplicates stays as it is without duplicates. -/
theorem eraseDups_of_nodup {list : List String} (h : list.Nodup) : list.eraseDups = list := by
  induction list with
  | nil => rfl
  | cons a as ih =>
      obtain ⟨ha, has⟩ := List.nodup_cons.1 h
      have hkept : as.filter (fun b => !b == a) = as := by
        rw [List.filter_eq_self]
        rintro b hb
        simpa using ne_of_mem_of_not_mem hb ha
      rw [List.eraseDups_cons, hkept, ih has]

/-- Leaving duplicates out is appending and then leaving later repetitions out,
if there are none before. -/
theorem TlsSanPolicy.addAll_deduplicate_of_nodup {list : List String} (h : list.Nodup)
    (addresses : List String) :
    deduplicate.addAll list addresses = (append.addAll list addresses).eraseDups := by
  rw [addAll_deduplicate_eq, addAll_append, List.eraseDups_append, eraseDups_of_nodup h,
      List.removeAll]
  simp

/-! ## §5. Runs of any length. -/

open NameStep in
/-- What a run of steps does to a document that lists the addresses `base` at its
start. -/
structure NamesAccumulate (doc : RoleDocument) (steps : List NameStep) (base : List String) :
    Prop where
  /-- Every step answers. -/
  answered : (run steps doc).2.length = steps.length
  /-- Token, plugins, join address and options stay what they are, all along. -/
  others : ∀ i : Nat, (stateAt steps doc i).token = doc.token ∧ (stateAt steps doc i).cni = doc.cni
    ∧ (stateAt steps doc i).server = doc.server ∧ (stateAt steps doc i).options = doc.options
  /-- An empty address changes nothing. -/
  refused : ∀ (i : Nat) (policy : TlsSanPolicy), steps[i]? = some (NameStep.merge policy "") →
    stateAt steps doc (i + 1) = stateAt steps doc i
  /-- It is reported, and nothing else is reported in that way. -/
  emptyAddress : ∀ i : Nat, (run steps doc).2[i]? = some (some Warning.emptyAddress)
    ↔ ∃ policy, steps[i]? = some (NameStep.merge policy "")
  /-- Once the names are a list, no address is lost and none changes its place. -/
  kept : ∀ (i j : Nat) (names : List String), i ≤ j → (stateAt steps doc i).tlsSan = .list names →
    ∃ more, (stateAt steps doc j).tlsSan = .list (names ++ more)
  /-- A value that fits no form is dropped by the first step that takes effect, and
  by no other. -/
  droppedOnce : ∀ (i : Nat) (old : Yaml.Value),
    (run steps doc).2[i]? = some (some (Warning.discardedTlsSan old))
      ↔ doc.tlsSan = .other old ∧ FirstEffectiveAt steps doc i
  /-- If no step takes effect, nothing changes. -/
  idle : (¬ ∃ i, EffectiveAt steps doc i) → (run steps doc).1 = doc
  /-- Appended addresses stand behind the first ones, as often as they are offered. -/
  appended : (∃ i, EffectiveAt steps doc i) → AllUnder .append steps →
    (run steps doc).1.tlsSan = .list (base ++ offered steps)
  /-- Without duplicates those stand there that are not among the first ones, each
  where it first occurs. -/
  deduplicated : (∃ i, EffectiveAt steps doc i) → AllUnder .deduplicate steps →
    (run steps doc).1.tlsSan
      = .list (base ++ ((offered steps).filter fun a => a ∉ base).eraseDups)
  /-- If there are no duplicates at the start, that is what appending gives without
  later repetitions. -/
  asAppended : (∃ i, EffectiveAt steps doc i) → AllUnder .deduplicate steps → base.Nodup →
    ∃ names, (run (steps.map (under .append)) doc).1.tlsSan = .list names
      ∧ (run steps doc).1.tlsSan = .list names.eraseDups
  /-- More steps with these addresses change nothing any more, be they the same ones
  or others. -/
  settled : (∃ i, EffectiveAt steps doc i) → AllUnder .deduplicate steps →
    ∀ more, AllUnder .deduplicate more →
      (∀ a ∈ offered more, a ∈ base ∨ a ∈ offered steps) →
      (run more (run steps doc).1).1 = (run steps doc).1

open NameStep in
/-- **Names accumulate**, whatever steps are taken on whatever document. -/
theorem names_accumulate (doc : RoleDocument) (steps : List NameStep) :
    ∃ base, doc.tlsSan.ListsAddresses base ∧ NamesAccumulate doc steps base := by
  refine ⟨doc.tlsSan.addresses, Setting.listsAddresses_iff.2 rfl, ?_⟩
  have hunder : ∀ {policy}, (∃ i, EffectiveAt steps doc i) → AllUnder policy steps →
      (run steps doc).1.tlsSan = .list (policy.addAll doc.tlsSan.addresses (offered steps)) := by
    intro policy heffective hpolicy
    rw [run_names heffective, extendAll_under hpolicy]
  refine {
    answered := length_answers
    others := fun i => ?_
    refused := fun i policy hi => ?_
    emptyAddress := fun i => ?_
    kept := fun i j names hij hnames => stateAt_list hij hnames
    droppedOnce := fun i old => answer_discarded_iff
    idle := fun hidle => ?_
    appended := fun heffective hpolicy => ?_
    deduplicated := fun heffective hpolicy => ?_
    asAppended := fun heffective hpolicy hnodup => ?_
    settled := fun heffective hpolicy more hmore hlisted => ?_ }
  · rw [stateAt_others i]
    exact ⟨rfl, rfl, rfl, rfl⟩
  · have hempty : ¬ (NameStep.merge policy "").Effective (stateAt steps doc i).tlsSan :=
      fun heffective => heffective rfl
    rw [stateAt_succ hi, (apply_idle hempty).1]
  · rw [answer_at, Option.map_eq_some_iff]
    simp only [apply_emptyAddress_iff]
    constructor
    · rintro ⟨step, hi, policy, rfl⟩
      exact ⟨policy, hi⟩
    · rintro ⟨policy, hi⟩
      exact ⟨_, hi, policy, rfl⟩
  · rw [← stateAt_length, stateAt_idle fun j _ hj => hidle ⟨j, hj⟩]
  · rw [hunder heffective hpolicy, TlsSanPolicy.addAll_append]
  · rw [hunder heffective hpolicy, TlsSanPolicy.addAll_deduplicate_eq]
  · refine ⟨TlsSanPolicy.append.addAll doc.tlsSan.addresses (offered steps), ?_, ?_⟩
    · rw [run_names (exists_effectiveAt_under.2 heffective), extendAll_under (allUnder_under _ _),
          offered_under]
    · rw [hunder heffective hpolicy, TlsSanPolicy.addAll_deduplicate_of_nodup hnodup]
  · refine run_settled (hunder heffective hpolicy) hmore fun a ha => ?_
    rw [TlsSanPolicy.mem_addAll]
    exact hlisted a ha

/-- The first step that takes effect drops the old value, and the third is
refused. -/
example :
    NameStep.run [.normalize, .merge .deduplicate "a", .merge .append "", .merge .deduplicate "a"]
        { RoleDocument.empty with tlsSan := .other (.int 6) }
      = ({ RoleDocument.empty with tlsSan := .list ["a"] },
          [some (.discardedTlsSan (.int 6)), none, some .emptyAddress, none]) := by
  decide +kernel

end ClusterBoot
