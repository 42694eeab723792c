/-
  ClusterBoot.Proofs.VariableReadings
  ────────────────────────────────
  **EVERY VARIABLE SETS ITS OWN FIELD.**

  Eleven variables adjust a build, and each is read by a rule of its own
  (`Variable.Means`); a blank or missing one sets the default (`Variable.Sets`).
  If there are settings, each field is what is read of its variable
  (`readings_of_settings`), and of the three variables that can be misunderstood the
  first that is misunderstood is reported (`FirstMisread`).  So a field depends on
  one variable alone; `settings_decided` puts this together.
-/
import ClusterBoot.Proofs.LetterCases
import ClusterBoot.Proofs.Numerals
import ClusterBoot.Proofs.RoleDocuments
import ClusterBoot.Settings

namespace ClusterBoot

/-! ## §1. Variables and fields. -/

/-- A variable that adjusts a build. -/
inductive Variable where
  | downloadTimeout
  | clusterToken
  | tlsSan
  | skipArtefacts
  | rke2Releases
  | k3sReleases
  | rke2InstallScript
  | k3sInstallScript
  | rke2SelinuxRepository
  | k3sSelinuxRepository
  | selinuxSigningKey
  deriving DecidableEq, Repr

/-- What a field of the settings may hold. -/
inductive FieldValue where
  | seconds (n : Nat)
  | tokens (policy : TokenPolicy)
  | names (policy : TlsSanPolicy)
  | flag (b : Bool)
  | source (url : String)
  deriving DecidableEq, Repr

/-- The field of a variable. -/
def Settings.field (s : Settings) : Variable → FieldValue
  | .downloadTimeout => .seconds s.downloadTimeout
  | .clusterToken => .tokens s.cluster.token
  | .tlsSan => .names s.cluster.tlsSan
  | .skipArtefacts => .flag s.skipArtefacts
  | .rke2Releases => .source s.sources.rke2Releases
  | .k3sReleases => .source s.sources.k3sReleases
  | .rke2InstallScript => .source s.sources.rke2InstallScript
  | .k3sInstallScript => .source s.sources.k3sInstallScript
  | .rke2SelinuxRepository => .source s.sources.rke2SelinuxRepository
  | .k3sSelinuxRepository => .source s.sources.k3sSelinuxRepository
  | .selinuxSigningKey => .source s.sources.selinuxSigningKey

/-- The settings have no other fields. -/
theorem Settings.eq_of_fields {s s' : Settings} (h : ∀ v, s'.field v = s.field v) : s' = s := by
  obtain ⟨⟨_, _, _, _, _, _, _⟩, _, ⟨_, _⟩, _⟩ := s
  obtain ⟨⟨_, _, _, _, _, _, _⟩, _, ⟨_, _⟩, _⟩ := s'
  cases FieldValue.seconds.inj (h .downloadTimeout)
  cases FieldValue.tokens.inj (h .clusterToken)
  cases FieldValue.names.inj (h .tlsSan)
  cases FieldValue.flag.inj (h .skipArtefacts)
  cases FieldValue.source.inj (h .rke2Releases)
  cases FieldValue.source.inj (h .k3sReleases)
  cases FieldValue.source.inj (h .rke2InstallScript)
  cases FieldValue.source.inj (h .k3sInstallScript)
  cases FieldValue.source.inj (h .rke2SelinuxRepository)
  cases FieldValue.source.inj (h .k3sSelinuxRepository)
  cases FieldValue.source.inj (h .selinuxSigningKey)
  rfl

namespace Variable

/-- The name of a variable, after the stem that all of them have. -/
def name : Variable → String
  | downloadTimeout => "DOWNLOAD_TIMEOUT"
  | clusterToken => "CLUSTER_TOKEN"
  | tlsSan => "TLS_SAN"
  | skipArtefacts => "SKIP_ARTEFACTS"
  | rke2Releases => "RKE2_RELEASES"
  | k3sReleases => "K3S_RELEASES"
  | rke2InstallScript => "RKE2_INSTALL_SCRIPT"
  | k3sInstallScript => "K3S_INSTALL_SCRIPT"
  | rke2SelinuxRepository => "RKE2_SELINUX_REPO"
  | k3sSelinuxRepository => "K3S_SELINUX_REPO"
  | selinuxSigningKey => "SELINUX_KEY"

/-- The variables that can be misunderstood, in the order in which they are read. -/
def checked : List Variable := [downloadTimeout, clusterToken, tlsSan]

/-- The variables that name where something comes from. -/
def sources : List Variable :=
  [rke2Releases, k3sReleases, rke2InstallScript, k3sInstallScript, rke2SelinuxRepository,
    k3sSelinuxRepository, selinuxSigningKey]

/-! ## §2. What a value means. -/

/-- The words for the token policies. -/
def tokenWords : List (String × TokenPolicy) :=
  [("random", .random), ("placeholder", .placeholder)]

/-- The words for the policies on listed addresses. -/
def nameWords : List (String × TlsSanPolicy) :=
  [("append", .append), ("dedupe", .deduplicate), ("deduplicate", .deduplicate)]

/-- The words for yes. -/
def yesWords : List String := ["1", "true", "yes"]

/-- What a variable with a value sets its field to. -/
inductive Means : Variable → String → FieldValue → Prop
  /-- Decimal digits, with or without a plus sign, are seconds if they fit into 64 bits. -/
  | seconds {value : String} {ds : List Char}
      (sign : value.toList = ds ∨ value.toList = '+' :: ds) (nonempty : ds ≠ [])
      (digits : ∀ c ∈ ds, c.isDigit = true) (fits : Nat.ofDigitChars 10 ds 0 < UInt64.size) :
      Means downloadTimeout value (.seconds (Nat.ofDigitChars 10 ds 0))
  | tokens {word value : String} {policy : TokenPolicy} (known : (word, policy) ∈ tokenWords)
      (h : Text.InAnyCase word value) : Means clusterToken value (.tokens policy)
  | names {word value : String} {policy : TlsSanPolicy} (known : (word, policy) ∈ nameWords)
      (h : Text.InAnyCase word value) : Means tlsSan value (.names policy)
  | yes {word value : String} (known : word ∈ yesWords) (h : Text.InAnyCase word value) :
      Means skipArtefacts value (.flag true)
  /-- What is not understood is no. -/
  | no {value : String} (h : ∀ word ∈ yesWords, ¬ Text.InAnyCase word value) :
      Means skipArtefacts value (.flag false)
  | source {v : Variable} (h : v ∈ sources) (value : String) : Means v value (.source value)

/-- What a variable sets its field to: the default if it is blank. -/
def Sets (v : Variable) (value : String) (f : FieldValue) : Prop :=
  if value = "" then f = Settings.default.field v else v.Means value f

/-- What is expected of a variable, if that is a word. -/
def expected : Variable → String
  | clusterToken => " (expected 'random' or 'placeholder')"
  | tlsSan => " (expected 'append' or 'dedupe')"
  | _ => ""

/-- What is reported of a variable that is misunderstood. -/
def complaint (v : Variable) (value : String) : String :=
  "Invalid EDGE_BUILDER_" ++ v.name ++ ": " ++ value ++ v.expected

end Variable

namespace Environment

/-- The trimmed value of a variable; a missing one is as good as a blank one. -/
def value (env : Environment) (v : Variable) : String :=
  Text.trim ((env ("EDGE_BUILDER_" ++ v.name)).getD "")

/-- What is read of a variable. -/
def reading (env : Environment) : Variable → Except SettingsFault FieldValue
  | .downloadTimeout => env.downloadTimeout.map .seconds
  | .clusterToken => env.tokenPolicy.map .tokens
  | .tlsSan => env.tlsSanPolicy.map .names
  | .skipArtefacts => .ok (.flag env.skipArtefacts)
  | .rke2Releases => .ok (.source env.sources.rke2Releases)
  | .k3sReleases => .ok (.source env.sources.k3sReleases)
  | .rke2InstallScript => .ok (.source env.sources.rke2InstallScript)
  | .k3sInstallScript => .ok (.source env.sources.k3sInstallScript)
  | .rke2SelinuxRepository => .ok (.source env.sources.rke2SelinuxRepository)
  | .k3sSelinuxRepository => .ok (.source env.sources.k3sSelinuxRepository)
  | .selinuxSigningKey => .ok (.source env.sources.selinuxSigningKey)

/-! ## §3. Single readings. -/

theorem setting?_eq (env : Environment) (v : Variable) :
    env.setting? v.name = if env.value v = "" then none else some (env.value v) := by
  unfold setting? value variableStem
  cases env ("EDGE_BUILDER_" ++ v.name) with
  | none => rfl
  | some value => rfl

end Environment

namespace Variable

variable {value : String} {f : FieldValue}

theorem means_seconds_iff : Means downloadTimeout value f
    ↔ ∃ n, Text.readNat? Environment.timeoutBound value.toList = some n ∧ f = .seconds n := by
  simp only [Text.readNat?_eq_some_iff, Text.digits?_eq_some_iff]
  constructor
  · intro h
    cases h with
    | seconds sign nonempty digits fits =>
        exact ⟨_, ⟨_, sign, ⟨nonempty, digits, rfl⟩, fits⟩, rfl⟩
    | source h => exact absurd h (by decide)
  · rintro ⟨n, ⟨ds, sign, ⟨nonempty, digits, rfl⟩, fits⟩, rfl⟩
    exact .seconds sign nonempty digits fits

theorem means_tokens_iff : Means clusterToken value f
    ↔ (Text.toLower value = "random" ∧ f = .tokens .random)
      ∨ (Text.toLower value = "placeholder" ∧ f = .tokens .placeholder) := by
  have hrandom := @Text.toLower_eq_iff "random" value (by decide)
  have hplaceholder := @Text.toLower_eq_iff "placeholder" value (by decide)
  rw [hrandom, hplaceholder]
  constructor
  · intro h
    cases h with
    | tokens known h =>
        simp only [tokenWords, List.mem_cons, List.not_mem_nil, or_false, Prod.mk.injEq] at known
        rcases known with ⟨rfl, rfl⟩ | ⟨rfl, rfl⟩
        · exact .inl ⟨h, rfl⟩
        · exact .inr ⟨h, rfl⟩
    | source h => exact absurd h (by decide)
  · rintro (⟨h, rfl⟩ | ⟨h, rfl⟩)
    · exact .tokens (by decide) h
    · exact .tokens (by decide) h

theorem means_names_iff : Means tlsSan value f
    ↔ (Text.toLower value = "append" ∧ f = .names .append)
      ∨ ((Text.toLower value = "dedupe" ∨ Text.toLower value = "deduplicate")
        ∧ f = .names .deduplicate) := by
  have happend := @Text.toLower_eq_iff "append" value (by decide)
  have hdedupe := @Text.toLower_eq_iff "dedupe" value (by decide)
  have hdeduplicate := @Text.toLower_eq_iff "deduplicate" value (by decide)
  rw [happend, hdedupe, hdeduplicate]
  constructor
  · intro h
    cases h with
    | names known h =>
        simp only [nameWords, List.mem_cons, List.not_mem_nil, or_false, Prod.mk.injEq] at known
        rcases known with ⟨rfl, rfl⟩ | ⟨rfl, rfl⟩ | ⟨rfl, rfl⟩
        · exact .inl ⟨h, rfl⟩
        · exact .inr ⟨.inl h, rfl⟩
        · exact .inr ⟨.inr h, rfl⟩
    | source h => exact absurd h (by decide)
  · rintro (⟨h, rfl⟩ | ⟨h | h, rfl⟩)
    · exact .names (by decide) h
    · exact .names (by decide : ("dedupe", TlsSanPolicy.deduplicate) ∈ nameWords) h
    · exact .names (by decide : ("deduplicate", TlsSanPolicy.deduplicate) ∈ nameWords) h

theorem means_flag_iff : Means skipArtefacts value f
    ↔ f = .flag (yesWords.contains (Text.toLower value)) := by
  have hword : ∀ word ∈ yesWords, (Text.toLower value = word ↔ Text.InAnyCase word value) :=
    fun word h => Text.toLower_eq_iff
      ((by decide : ∀ word ∈ yesWords, word.toList ⊆ Text.wordChars) word h)
  constructor
  · intro h
    cases h with
    | yes known h =>
        rw [(hword _ known).2 h, List.contains_iff_mem.2 known]
    | no h =>
        have hno : ¬ Text.toLower value ∈ yesWords := fun hmem =>
          h _ hmem ((hword _ hmem).1 rfl)
        rw [List.contains_eq_mem, decide_eq_false hno]
    | source h => exact absurd h (by decide)
  · rintro rfl
    by_cases hmem : Text.toLower value ∈ yesWords
    · rw [List.contains_iff_mem.2 hmem]
      exact .yes hmem ((hword _ hmem).1 rfl)
    · rw [List.contains_eq_mem, decide_eq_false hmem]
      refine .no fun word known h => hmem ?_
      rw [(hword word known).2 h]
      exact known

theorem means_source_iff {v : Variable} (hv : v ∈ sources) :
    Means v value f ↔ f = .source value := by
  constructor
  · intro h
    cases h with
    | source h value => rfl
    | _ => exact absurd hv (by decide)
  · rintro rfl
    exact .source hv value

end Variable

namespace Environment

open Variable

variable {env : Environment} {v : Variable} {f : FieldValue}

theorem reading_source (h : v ∈ Variable.sources) : env.reading v
    = .ok (if env.value v = "" then Settings.default.field v else .source (env.value v)) := by
  have hget : ∀ fallback, env.settingOr v.name fallback
      = if env.value v = "" then fallback else env.value v := by
    intro fallback
    rw [settingOr, setting?_eq]
    split <;> rfl
  have hchosen : ∀ fallback, FieldValue.source (env.settingOr v.name fallback)
      = if env.value v = "" then .source fallback else .source (env.value v) := by
    intro fallback
    rw [hget]
    split <;> rfl
  simp only [Variable.sources, List.mem_cons, List.not_mem_nil, or_false] at h
  rcases h with rfl | rfl | rfl | rfl | rfl | rfl | rfl
  all_goals exact congrArg Except.ok (hchosen _)

/-- What a blank variable is read as is the default. -/
theorem reading_of_blank (h : env.value v = "") :
    env.reading v = .ok (Settings.default.field v) := by
  by_cases hsource : v ∈ Variable.sources
  · rw [reading_source hsource, if_pos h]
  · have hnone : env.setting? v.name = none := by rw [setting?_eq, if_pos h]
    cases v with
    | downloadTimeout =>
        have hnone : env.setting? "DOWNLOAD_TIMEOUT" = none := hnone
        simp only [reading, downloadTimeout, hnone]
        rfl
    | clusterToken =>
        have hnone : env.setting? "CLUSTER_TOKEN" = none := hnone
        simp only [reading, tokenPolicy, hnone]
        rfl
    | tlsSan =>
        have hnone : env.setting? "TLS_SAN" = none := hnone
        simp only [reading, tlsSanPolicy, hnone]
        rfl
    | skipArtefacts =>
        have hnone : env.setting? "SKIP_ARTEFACTS" = none := hnone
        simp only [reading, skipArtefacts, hnone]
        rfl
    | _ => exact absurd (by decide) hsource

/-- What a variable with a value is read as is what it means; if it means nothing it
is one of the checked ones, and reported. -/
theorem reading_of_given (h : env.value v ≠ "") :
    (env.reading v = .ok f ↔ v.Means (env.value v) f)
      ∧ ∀ fault, env.reading v = .error fault →
          v ∈ checked ∧ fault.message = v.complaint (env.value v) := by
  by_cases hsource : v ∈ Variable.sources
  · rw [reading_source hsource, if_neg h, means_source_iff hsource]
    simp [eq_comm]
  · have hsome : env.setting? v.name = some (env.value v) := by rw [setting?_eq, if_neg h]
    cases v with
    | downloadTimeout =>
        have hsome : env.setting? "DOWNLOAD_TIMEOUT" = _ := hsome
        rw [means_seconds_iff]
        simp only [reading, downloadTimeout, hsome]
        cases Text.readNat? timeoutBound (env.value .downloadTimeout).toList with
        | none =>
            refine ⟨by simp [Except.map], fun fault hfault => ?_⟩
            cases hfault
            exact ⟨by decide, (String.append_empty).symm⟩
        | some n => simp [Except.map, eq_comm]
    | clusterToken =>
        have hsome : env.setting? "CLUSTER_TOKEN" = _ := hsome
        rw [means_tokens_iff]
        simp only [reading, tokenPolicy, hsome]
        split
        next hword => simp [Except.map, hword, eq_comm]
        next hrandom =>
          split
          next hword => simp [Except.map, hword, eq_comm]
          next hplaceholder =>
            refine ⟨by simp [Except.map, hrandom, hplaceholder], fun fault hfault => ?_⟩
            cases hfault
            exact ⟨by decide, rfl⟩
    | tlsSan =>
        have hsome : env.setting? "TLS_SAN" = _ := hsome
        rw [means_names_iff]
        simp only [reading, tlsSanPolicy, hsome]
        split
        next hword => simp [Except.map, hword, eq_comm]
        next happend =>
          split
          next hword => simp [Except.map, happend, hword, eq_comm (a := f)]
          next hdedupe =>
            refine ⟨by simp [Except.map, happend, hdedupe], fun fault hfault => ?_⟩
            cases hfault
            exact ⟨by decide, rfl⟩
    | skipArtefacts =>
        have hsome : env.setting? "SKIP_ARTEFACTS" = _ := hsome
        rw [means_flag_iff]
        simp only [reading, skipArtefacts, hsome]
        exact ⟨by simp [yesWords, eq_comm], fun fault hfault => by cases hfault⟩
    | _ => exact absurd (by decide) hsource

/-- **What is read of a variable is what it sets.** -/
theorem reading_eq_ok_iff : env.reading v = .ok f ↔ v.Sets (env.value v) f := by
  unfold Variable.Sets
  split
  next h => rw [reading_of_blank h, Except.ok.injEq, eq_comm]
  next h => exact (reading_of_given h).1

/-- What cannot be read is one of the checked variables, and reported. -/
theorem reading_error {fault : SettingsFault} (h : env.reading v = .error fault) :
    v ∈ checked ∧ fault.message = v.complaint (env.value v) := by
  by_cases hblank : env.value v = ""
  · rw [reading_of_blank hblank] at h
    cases h
  · exact (reading_of_given (f := Settings.default.field v) hblank).2 fault h

theorem reading_congr {env' : Environment} (h : env'.value v = env.value v) :
    env'.reading v = env.reading v := by
  have hsetting : env'.setting? v.name = env.setting? v.name := by
    rw [setting?_eq, setting?_eq, h]
  cases v
  all_goals
    simp only [Variable.name] at hsetting
    simp only [reading, downloadTimeout, tokenPolicy, tlsSanPolicy, skipArtefacts, sources,
      settingOr, hsetting]

/-! ## §4. All readings. -/

theorem readings_of_settings {s : Settings} (h : env.settings = .ok s) (v : Variable) :
    env.reading v = .ok (s.field v) := by
  obtain ⟨timeout, htimeout, h⟩ := RoleDocument.bind_eq_ok.1 h
  obtain ⟨token, htoken, h⟩ := RoleDocument.bind_eq_ok.1 h
  obtain ⟨names, hnames, h⟩ := RoleDocument.bind_eq_ok.1 h
  cases h
  cases v with
  | downloadTimeout => rw [reading, htimeout]; rfl
  | clusterToken => rw [reading, htoken]; rfl
  | tlsSan => rw [reading, hnames]; rfl
  | _ => rfl

/-- **Settings depend on the trimmed values of the variables alone.** -/
theorem settings_congr {env' : Environment} (h : ∀ v, env'.value v = env.value v) :
    env'.settings = env.settings := by
  have hsetting :
      ∀ name ∈ (checked ++ Variable.skipArtefacts :: Variable.sources).map Variable.name,
        env'.setting? name = env.setting? name := by
    intro name hname
    obtain ⟨v, -, rfl⟩ := List.mem_map.1 hname
    rw [setting?_eq, setting?_eq, h]
  simp (disch := decide) only [settings, downloadTimeout, tokenPolicy, tlsSanPolicy, skipArtefacts,
    sources, settingOr, hsetting]

/-- That a variable has a value that it sets its field to. -/
def Understood (env : Environment) (v : Variable) : Prop :=
  ∃ f, v.Sets (env.value v) f

/-- The first of the checked variables that is misunderstood, and what is reported. -/
def FirstMisread (env : Environment) (reason : String) : Prop :=
  ∃ before v after, checked = before ++ v :: after ∧ (∀ w ∈ before, env.Understood w)
    ∧ ¬ env.Understood v ∧ reason = v.complaint (env.value v)

theorem understood_of_reading (h : env.reading v = .ok f) : env.Understood v :=
  ⟨f, reading_eq_ok_iff.1 h⟩

theorem not_understood_of_reading {fault : SettingsFault} (h : env.reading v = .error fault) :
    ¬ env.Understood v := by
  rintro ⟨f, hf⟩
  rw [reading_eq_ok_iff.2 hf] at h
  cases h

/-- There are settings, or the first variable that is misunderstood is reported. -/
theorem settings_or_firstMisread (env : Environment) :
    (∃ s, env.settings = .ok s)
      ∨ ∃ fault, env.settings = .error fault ∧ env.FirstMisread fault.message := by
  have hmisread : ∀ before {v after fault}, checked = before ++ v :: after →
      (∀ w ∈ before, env.Understood w) → env.reading v = .error fault →
        env.FirstMisread fault.message :=
    fun _ _ _ _ hsplit hbefore hread =>
      ⟨_, _, _, hsplit, hbefore, not_understood_of_reading hread, (reading_error hread).2⟩
  -- the three readers one after the other, as the settings are read
  cases htimeout : env.downloadTimeout with
  | error fault =>
      have hread : env.reading .downloadTimeout = .error fault := by rw [reading, htimeout]; rfl
      have hsettings : env.settings = .error fault := by
        simp only [settings, htimeout, bind, Except.bind]
      exact .inr ⟨fault, hsettings, hmisread [] rfl (by simp) hread⟩
  | ok timeout =>
  have hfirst : env.Understood .downloadTimeout :=
    understood_of_reading (f := .seconds timeout) (by rw [reading, htimeout]; rfl)
  cases htoken : env.tokenPolicy with
  | error fault =>
      have hread : env.reading .clusterToken = .error fault := by rw [reading, htoken]; rfl
      have hsettings : env.settings = .error fault := by
        simp only [settings, htimeout, htoken, bind, Except.bind]
      exact .inr ⟨fault, hsettings, hmisread [_] rfl (by simpa using hfirst) hread⟩
  | ok token =>
  have hsecond : env.Understood .clusterToken :=
    understood_of_reading (f := .tokens token) (by rw [reading, htoken]; rfl)
  cases hnames : env.tlsSanPolicy with
  | error fault =>
      have hread : env.reading .tlsSan = .error fault := by rw [reading, hnames]; rfl
      have hsettings : env.settings = .error fault := by
        simp only [settings, htimeout, htoken, hnames, bind, Except.bind]
      exact .inr ⟨fault, hsettings,
        hmisread [_, _] rfl (by simpa using ⟨hfirst, hsecond⟩) hread⟩
  | ok names =>
      exact .inl ⟨_, by simp only [settings, htimeout, htoken, hnames, bind, Except.bind]; rfl⟩

/-- Only one variable is misunderstood first. -/
theorem FirstMisread.unique {reason reason' : String} (h : env.FirstMisread reason)
    (h' : env.FirstMisread reason') : reason = reason' := by
  obtain ⟨before, v, after, hsplit, hbefore, hv, rfl⟩ := h
  obtain ⟨before', v', after', hsplit', hbefore', hv', rfl⟩ := h'
  -- if one came before the other it would be understood
  rcases List.append_eq_append_iff.1 (hsplit.symm.trans hsplit') with
    ⟨between, rfl, h⟩ | ⟨between, rfl, h⟩
  · cases between with
    | nil => cases h; rfl
    | cons w between =>
        cases h
        exact absurd (hbefore' v (by simp)) hv
  · cases between with
    | nil => cases h; rfl
    | cons w between =>
        cases h
        exact absurd (hbefore v' (by simp)) hv'

theorem understood_of_settings {s : Settings} (h : env.settings = .ok s) (v : Variable) :
    env.Understood v :=
  understood_of_reading (readings_of_settings h v)

/-- **There are settings exactly if all checked variables are understood.** -/
theorem exists_settings_iff (env : Environment) :
    (∃ s, env.settings = .ok s) ↔ ∀ v ∈ checked, env.Understood v := by
  refine ⟨fun ⟨s, hs⟩ v _ => understood_of_settings hs v, fun h => ?_⟩
  rcases settings_or_firstMisread env with hok | ⟨fault, -, before, v, after, hsplit, -, hv, -⟩
  · exact hok
  · exact absurd (h v (by rw [hsplit]; simp)) hv

/-- **What is reported is the first variable that is misunderstood.** -/
theorem reported_iff (env : Environment) (reason : String) :
    (∃ fault, env.settings = .error fault ∧ fault.message = reason)
      ↔ env.FirstMisread reason := by
  rcases settings_or_firstMisread env with ⟨s, hs⟩ | ⟨fault, hfault, hfirst⟩
  · constructor
    · rintro ⟨fault, hfault, -⟩
      rw [hs] at hfault
      cases hfault
    · rintro ⟨before, v, after, -, -, hv, -⟩
      exact absurd (understood_of_settings hs v) hv
  · constructor
    · rintro ⟨fault', hfault', rfl⟩
      rw [hfault] at hfault'
      cases hfault'
      exact hfirst
    · intro h
      exact ⟨fault, hfault, hfirst.unique h⟩

/-- A field depends on its own variable alone. -/
theorem field_congr {env' : Environment} {s s' : Settings} (h : env'.value v = env.value v)
    (hs : env.settings = .ok s) (hs' : env'.settings = .ok s') : s'.field v = s.field v := by
  have hread := readings_of_settings hs' v
  rw [reading_congr h, readings_of_settings hs v] at hread
  exact (Except.ok.inj hread).symm

/-- How reading the settings of an environment ends. -/
structure SettingsDecided (env : Environment) : Prop where
  /-- There are settings exactly if no checked variable is misunderstood. -/
  succeeds : (∃ s, env.settings = .ok s) ↔ ∀ v ∈ checked, env.Understood v
  /-- If not the first that is misunderstood is reported. -/
  fails : ∀ reason, (∃ fault, env.settings = .error fault ∧ fault.message = reason)
    ↔ env.FirstMisread reason
  /-- Every field is what its variable sets it to, -/
  fields : ∀ s, env.settings = .ok s → ∀ v : Variable, v.Sets (env.value v) (s.field v)
  /-- the default if that is blank. -/
  default : ∀ s, env.settings = .ok s → ∀ v, env.value v = "" →
    s.field v = Settings.default.field v
  /-- Nothing matters but the trimmed values of the variables. -/
  congr : ∀ env' : Environment, (∀ v, env'.value v = env.value v) → env'.settings = env.settings
  /-- A field depends on its own variable alone. -/
  own : ∀ (env' : Environment) v s s', env'.value v = env.value v →
    env.settings = .ok s → env'.settings = .ok s' → s'.field v = s.field v
  /-- So a change of one variable changes no other field, and settings that have the same in
  this one field are the same. -/
  single : ∀ (env' : Environment) v s s', (∀ w ≠ v, env'.value w = env.value w) →
    env.settings = .ok s → env'.settings = .ok s' →
    (∀ w ≠ v, s'.field w = s.field w) ∧ (s'.field v = s.field v → s' = s)

end Environment

open Environment in
/-- **Settings are read from eleven variables, each for a field of its own, or the first
variable that is misunderstood is reported.** -/
theorem settings_decided (env : Environment) : env.SettingsDecided where
  succeeds := exists_settings_iff env
  fails := reported_iff env
  fields s hs v := reading_eq_ok_iff.1 (readings_of_settings hs v)
  default s hs v hblank := by
    have hread := readings_of_settings hs v
    rw [reading_of_blank hblank] at hread
    exact (Except.ok.inj hread).symm
  congr env' := settings_congr
  own env' v s s' := field_congr
  single env' v s s' h hs hs' := by
    have hothers : ∀ w ≠ v, s'.field w = s.field w :=
      fun w hw => field_congr (h w hw) hs hs'
    refine ⟨hothers, fun hv => Settings.eq_of_fields fun w => ?_⟩
    by_cases hw : w = v
    · rw [hw, hv]
    · exact hothers w hw

/-- Values are trimmed, a plus sign is no harm, and letter case does not matter. -/
example :
    let env : Environment := fun name =>
      if name = "EDGE_BUILDER_DOWNLOAD_TIMEOUT" then some " +30\n"
      else if name = "EDGE_BUILDER_TLS_SAN" then some "DeDupe"
      else if name = "EDGE_BUILDER_SELINUX_KEY" then some " "
      else none
    env.settings.toOption = some { Settings.default with
      downloadTimeout := 30
      cluster := ⟨.random, .deduplicate⟩ } := by
  decide +kernel

end ClusterBoot
