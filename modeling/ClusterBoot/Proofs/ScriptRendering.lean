/-
  ClusterBoot.Proofs.ScriptRendering
  ────────────────────────────────
  **SCRIPTS ARE WHAT THEIR TEMPLATES SAY.**

  Each part of a script is rendered by one part of its template
  (`renders_head`, `renders_policy` and so on), whatever comes after it.  So a
  script as a whole is its template filled with the values (`render_script`).

  All lines but those of the nodes are `Ordinary`: they begin in another way,
  and only a value can break them (`pieces_script`).  Which lines are there
  depends on few values, and on each of them alone (`script_rendering`).
-/
import ClusterBoot.InstallScript
import ClusterBoot.Proofs.Templates.Sources

namespace ClusterBoot

open Template (find? Renders)
open Text (Made MadeLines)

/-! ## §1. The values by their names. -/

/-- The values of a policy. -/
def SelinuxInstall.fields (s : SelinuxInstall) : List (String × Template.Value) :=
  [("package", .text s.package),
   ("repository_file", .text s.repositoryFile),
   ("signing_key", .ofOption s.signingKey)]

/-- The values of a node. -/
def NodeRole.fields (n : NodeRole) : List (String × Template.Value) :=
  [("hostname", .text n.hostname), ("role", .text n.role)]

namespace InstallValues

/-- The values of a script. -/
def fields (v : InstallValues) : Template.Scope :=
  [("distribution", .text v.distribution),
   ("install_path", .text v.installPath),
   ("images_path", .text v.imagesPath),
   ("install_script", .text v.installScript),
   ("binary", .text v.binary),
   ("config_dir", .text v.configDir),
   ("server_config_file", .text v.serverFile),
   ("agent_config_file", .text v.agentFile),
   ("initialiser_config_file", .text v.initialiserFile),
   ("initialiser", .text v.initialiser),
   ("vip_manifest", .ofOption v.vipManifest),
   ("selinux", (v.selinux.map fun s => .record s.fields).getD .null),
   ("nodes", .list (v.nodes.map fun n => .record n.fields))]

variable {v : InstallValues} {rest : Template} {s : String}

/-- A text that may be missing counts as true if it is there and not empty. -/
theorem holds_ofOption (o : Option String) :
    (Template.Value.ofOption o).holds = (filled? o).isSome := by
  cases o with
  | none => rfl
  | some s =>
      by_cases hs : s = ""
      · rw [hs]
        rfl
      · simp [Template.Value.ofOption, Template.Value.holds, filled?, hs]

theorem eq_of_filled {o : Option String} (h : filled? o = some s) : o = some s := by
  unfold filled? at h
  split at h
  next => contradiction
  next => exact h

/-- A text that is there and not empty is inserted as it is. -/
theorem ofOption_of_filled {o : Option String} (h : filled? o = some s) :
    Template.Value.ofOption o = .text s := by
  rw [eq_of_filled h]
  rfl

theorem find_manifest (v : InstallValues) :
    find? v.fields ["vip_manifest"] = some (.ofOption v.vipManifest) :=
  rfl

theorem find_selinux {p : SelinuxInstall} (hp : v.selinux = some p) (name : String) :
    find? v.fields ["selinux", name] = p.fields.lookup name := by
  show ((v.selinux.map fun s => Template.Value.record s.fields).getD .null).field? name >>= pure = _
  rw [hp]
  exact bind_pure _

/-! ## §2. The parts of the scripts. -/

/-- Whether a script is one for RKE2 decides between its blocks. -/
theorem met_distribution (v : InstallValues) :
    (Template.Condition.equals ["distribution"] "rke2").met? v.fields = some v.isRke2 :=
  rfl

theorem met_manifest (v : InstallValues) :
    (Template.Condition.holds ["vip_manifest"]).met? v.fields
      = some (filled? v.vipManifest).isSome := by
  rw [← holds_ofOption]
  rfl

theorem met_selinux (v : InstallValues) :
    (Template.Condition.holds ["selinux"]).met? v.fields = some v.selinux.isSome := by
  show some ((v.selinux.map fun s => Template.Value.record s.fields).getD .null).holds = _
  cases v.selinux <;> rfl

theorem met_signingKey {p : SelinuxInstall} (hp : v.selinux = some p) :
    (Template.Condition.holds ["selinux", "signing_key"]).met? v.fields
      = some (filled? p.signingKey).isSome := by
  rw [Template.Condition.met?, find_selinux hp, ← holds_ofOption]
  rfl

theorem renders_head (h : Renders v.fields rest s) :
    Renders v.fields (.head rest) (Text.unlines v.headLines ++ s) := by
  have hmet := met_distribution v
  unfold Template.head headLines
  cases hd : v.isRke2 with
  | true =>
      rw [hd] at hmet
      refine .of_eq (.lines _ (.yes hmet (.lines _ (.text _ .done)) (.lines _ h))) ?_
      simp [String.append_assoc, -String.reduceAppend]
  | false =>
      rw [hd] at hmet
      refine .of_eq (.lines _ (.no hmet (.lines _ (.text _ .done)) (.lines _ h))) ?_
      simp [String.append_assoc, -String.reduceAppend]

theorem renders_manifestCopy (h : Renders v.fields rest s) :
    Renders v.fields (.manifestCopy rest) (Text.unlines (v.vipLines "") ++ s) := by
  have hmet := met_manifest v
  unfold Template.manifestCopy vipLines
  cases hpath : filled? v.vipManifest with
  | none =>
      rw [hpath] at hmet
      exact .no hmet .done h
  | some path =>
      rw [hpath] at hmet
      have hvalue : find? v.fields ["vip_manifest"] = some (.text path) := by
        rw [find_manifest, ofOption_of_filled hpath]
      refine .of_eq (.yes hmet (.lines _ (.text _ (.insert hvalue (.lines _ .done)))) h) ?_
      simp [String.append_assoc, -String.reduceAppend]

/-- The line before is ended here, whether the manifest is copied or not. -/
theorem renders_initialCopy (h : Renders v.fields rest s) :
    Renders v.fields (.initialCopy rest) ("\n" ++ (Text.unlines (v.vipLines "  ") ++ s)) := by
  have hmet := met_manifest v
  unfold Template.initialCopy vipLines
  cases hpath : filled? v.vipManifest with
  | none =>
      rw [hpath] at hmet
      refine .of_eq (.no hmet .done h.newLine) ?_
      rw [String.empty_append, Text.unlines_nil, String.empty_append]
  | some path =>
      rw [hpath] at hmet
      have hvalue : find? v.fields ["vip_manifest"] = some (.text path) := by
        rw [find_manifest, ofOption_of_filled hpath]
      -- the margin is a part of the fixed text here, and a text of its own in the script
      have hcopy : "  cp " = "  " ++ "cp " := by decide
      have hdir : "  mkdir -p $MANIFESTS_DIR" = "  " ++ "mkdir -p $MANIFESTS_DIR" := by decide
      refine .of_eq (.yes hmet (.lines _ (.text _ (.insert hvalue (.text _ .done)))) h.newLine) ?_
      rw [hcopy, hdir]
      simp [String.append_assoc, -String.reduceAppend]

theorem renders_keyImport {p : SelinuxInstall} (hp : v.selinux = some p)
    (h : Renders v.fields rest s) :
    Renders v.fields (.keyImport rest) (Text.unlines (signingKeyLines p) ++ s) := by
  have hmet := met_signingKey hp
  unfold Template.keyImport signingKeyLines
  cases hkey : filled? p.signingKey with
  | none =>
      rw [hkey] at hmet
      exact .no hmet .done h
  | some key =>
      rw [hkey] at hmet
      have hvalue : find? v.fields ["selinux", "signing_key"] = some (.text key) := by
        rw [find_selinux hp, ← ofOption_of_filled hkey]
        rfl
      refine .of_eq (.yes hmet
        (.text _ (.insert hvalue (.lines _ (.text _ (.insert hvalue (.newLine .done)))))) h) ?_
      simp [String.append_assoc, -String.reduceAppend]

theorem renders_policy (h : Renders v.fields rest s) :
    Renders v.fields (.policy rest) (Text.unlines v.selinuxLines ++ s) := by
  have hmet := met_selinux v
  unfold Template.policy selinuxLines
  cases hp : v.selinux with
  | none =>
      rw [hp] at hmet
      exact .no hmet .done h
  | some p =>
      rw [hp] at hmet
      refine .of_eq (.yes hmet (.lines _ (renders_keyImport hp
        (.text _ (.insert (find_selinux hp _) (.lines _
          (.text _ (.insert (find_selinux hp _) (.lines _ .done)))))))) h) ?_
      simp [String.append_assoc, -String.reduceAppend]

theorem renders_images (h : Renders v.fields rest s) :
    Renders v.fields (.images rest) (Text.unlines v.imageLines ++ s) := by
  unfold Template.images imageLines
  refine .of_eq (.lines _ (.text _ (.insert rfl (.lines _ h)))) ?_
  simp [String.append_assoc, -String.reduceAppend]

theorem renders_scriptPath (h : Renders v.fields rest s) :
    Renders v.fields (.scriptPath rest) (v.scriptPath ++ ("\n" ++ s)) := by
  unfold Template.scriptPath scriptPath
  refine .of_eq (.insert rfl (.text _ (.insert rfl (.newLine h)))) ?_
  simp [String.append_assoc, -String.reduceAppend]

theorem renders_binary (h : Renders v.fields rest s) :
    Renders v.fields (.binary rest) (v.binaryLine ++ ("\n" ++ s)) := by
  unfold Template.binary binaryLine
  refine .of_eq (.text _ (.insert rfl (.text _ (.insert rfl (.lines _ h))))) ?_
  simp [String.append_assoc, -String.reduceAppend]

theorem renders_singleService (v : InstallValues) :
    Renders v.fields .singleService (Text.unlines v.singleServiceLines) := by
  have hmet := met_distribution v
  unfold Template.singleService singleServiceLines
  cases hd : v.isRke2 with
  | true =>
      rw [hd] at hmet
      refine .of_eq (.yes hmet (.text _ (.insert rfl (.newLine (.text _ (renders_scriptPath
        (.lines _ (.text _ .done))))))) (.newLine .done)) ?_
      simp [String.append_assoc, -String.reduceAppend]
  | false =>
      rw [hd] at hmet
      refine .of_eq (.no hmet (renders_binary (.text _ (renders_scriptPath
        (.lines _ (.text _ .done))))) (.newLine .done)) ?_
      simp [String.append_assoc, -String.reduceAppend]

theorem renders_multiService (v : InstallValues) :
    Renders v.fields .multiService (Text.unlines v.multiServiceLines) := by
  have hmet := met_distribution v
  unfold Template.multiService multiServiceLines
  cases hd : v.isRke2 with
  | true =>
      rw [hd] at hmet
      refine .of_eq (.yes hmet (.text _ (.insert rfl (.newLine (.lines _ (.text _
        (renders_scriptPath (.lines _ (.text _ .done)))))))) (.newLine .done)) ?_
      simp [String.append_assoc, -String.reduceAppend]
  | false =>
      rw [hd] at hmet
      refine .of_eq (.no hmet (renders_binary (.text _ (renders_scriptPath
        (.lines _ (.text _ .done))))) (.newLine .done)) ?_
      simp [String.append_assoc, -String.reduceAppend]

/-- One line for each node. -/
theorem renders_roles (h : Renders v.fields rest s) :
    Renders v.fields (.roles rest) (Text.unlines v.roleLines ++ s) := by
  have hnode : ∀ n ∈ v.nodes, Renders (("node", .record n.fields) :: v.fields)
      (.text "hosts[\"" (.insert ["node", "hostname"] (.text "\"]="
        (.insert ["node", "role"] (.newLine .done))))) (nodeLine n ++ "\n") := by
    intro n _
    refine .of_eq (.text _ (.insert rfl (.text _ (.insert rfl (.newLine .done))))) ?_
    simp [nodeLine, String.append_assoc, -String.reduceAppend]
  have hlines : String.join (v.nodes.map fun n => nodeLine n ++ "\n")
      = Text.unlines (v.nodes.map nodeLine) := by
    rw [Text.unlines, List.map_map]
    rfl
  unfold Template.roles roleLines
  refine .of_eq (.lines _ (.loop rfl hnode (.lines _ h))) ?_
  rw [hlines, Text.unlines_append, Text.unlines_append, String.append_assoc, String.append_assoc]

theorem renders_documentCopy (h : Renders v.fields rest s) :
    Renders v.fields (.documentCopy rest) (Text.unlines v.documentLines ++ s) := by
  unfold Template.documentCopy documentLines
  refine .of_eq (.lines _ (.text _ (.insert rfl (.lines _ (.text _ (.insert rfl
    (renders_initialCopy (.lines _ (.text _ (.insert rfl (.lines _ (.text _ (.insert rfl
      (.lines _ (.text _ (.insert rfl (.lines _ h))))))))))))))))) ?_
  simp [String.append_assoc, -String.reduceAppend]

/-! ## §3. The scripts as wholes. -/

theorem renders_singleNode (v : InstallValues) :
    Renders v.fields .singleNode (v.script .singleNode) := by
  refine .of_eq (renders_head (.lines _ (.text _ (.insert rfl (.text _ (.insert rfl (.lines _
    (renders_manifestCopy (.newLine (renders_policy (renders_images
      (renders_singleService v)))))))))))) ?_
  simp [script, scriptLines, singleLines, String.append_assoc, -String.reduceAppend]

theorem renders_multiNode (v : InstallValues) :
    Renders v.fields .multiNode (v.script .multiNode) := by
  refine .of_eq (renders_head (renders_roles (renders_documentCopy (renders_policy (renders_images
    (renders_multiService v)))))) ?_
  simp [script, scriptLines, multiLines, -String.reduceAppend]

/-- The template of a script is found under its name, and its values are not
for a web page. -/
theorem render_script (v : InstallValues) (variant : InstallVariant) :
    Template.render variant.templateName v.fields = .ok (v.script variant) := by
  cases variant with
  | singleNode => exact Template.render_of_renders rfl (by decide) v.renders_singleNode
  | multiNode => exact Template.render_of_renders rfl (by decide) v.renders_multiNode

/-! ## §4. What lines are made of. -/

/-- The texts that are put into a script. -/
def texts (v : InstallValues) : List String :=
  [v.distribution, v.installPath, v.imagesPath, v.installScript, v.binary, v.configDir,
    v.serverFile, v.agentFile, v.initialiserFile, v.initialiser]
  ++ v.vipManifest.toList
  ++ v.selinux.toList.flatMap (fun p => [p.package, p.repositoryFile] ++ p.signingKey.toList)
  ++ v.nodes.flatMap fun n => [n.hostname, n.role]

/-- A line is made of values and of fixed texts, and begins with a fixed text that
is not the one in front of the nodes. -/
inductive Ordinary (values : List String) : String → Prop where
  | append {a b : String} (ha : Ordinary values a) (hb : Made values b) : Ordinary values (a ++ b)
  | fixed {c : Char} {cs : List Char} (hc : c ≠ 'h') (h : '\n' ∉ c :: cs) :
      Ordinary values (String.ofList (c :: cs))

/-- Lines that are empty or ordinary. -/
inductive OrdinaryLines (values : List String) : List String → Prop where
  | nil : OrdinaryLines values []
  | blank {ls : List String} (h : OrdinaryLines values ls) : OrdinaryLines values ("" :: ls)
  | cons {l : String} {ls : List String} (hl : Ordinary values l) (h : OrdinaryLines values ls) :
      OrdinaryLines values (l :: ls)
  | append {ls ms : List String} (hl : OrdinaryLines values ls) (hm : OrdinaryLines values ms) :
      OrdinaryLines values (ls ++ ms)

section
variable {values : List String} {l : String} {ls : List String}

theorem Ordinary.made (h : Ordinary values l) : Made values l := by
  induction h with
  | append _ hb ih => exact .append ih hb
  | fixed _ h => exact .fixed h

/-- An ordinary line begins with a character that is fixed. -/
theorem Ordinary.start (h : Ordinary values l) : ∃ c, c ≠ 'h' ∧ l.toList.head? = some c := by
  induction h with
  | @append a b _ _ ih =>
      obtain ⟨c, hc, hhead⟩ := ih
      refine ⟨c, hc, ?_⟩
      rw [String.toList_append, List.head?_append, hhead]
      rfl
  | @fixed c cs hc _ =>
      refine ⟨c, hc, ?_⟩
      rw [String.toList_ofList]
      rfl

theorem OrdinaryLines.made (h : OrdinaryLines values ls) : MadeLines values ls := by
  induction h with
  | nil => exact .nil
  | blank _ ih => exact .cons (.fixed (by simp : '\n' ∉ [])) ih
  | cons hl _ ih => exact .cons hl.made ih
  | append _ _ ihl ihm => exact .append ihl ihm

/-- None of these lines is the line of a node. -/
theorem OrdinaryLines.not_node (h : OrdinaryLines values ls) :
    ∀ l ∈ ls, ¬ ['h', 'o', 's', 't', 's', '['] <+: l.toList := by
  induction h with
  | nil => simp
  | blank _ ih => exact List.forall_mem_cons.2 ⟨by simp, ih⟩
  | @cons l _ hl _ ih =>
      refine List.forall_mem_cons.2 ⟨?_, ih⟩
      rintro ⟨rest, hrest⟩
      obtain ⟨c, hc, hhead⟩ := hl.start
      rw [← hrest] at hhead
      exact hc (Option.some.inj hhead).symm
  | append _ _ ihl ihm => exact List.forall_mem_append.2 ⟨ihl, ihm⟩

end

section
variable (v : InstallValues)

theorem ordinary_headLines : OrdinaryLines v.texts v.headLines := by
  unfold headLines
  -- the constructors follow the texts; what is left is about the characters of fixed ones
  split <;> (repeat' first | assumption | constructor) <;> decide

theorem ordinary_vipLines (multi : Bool) :
    OrdinaryLines v.texts (v.vipLines (if multi then "  " else "")) := by
  unfold vipLines
  split
  next path hfilled =>
    have hpath : Made v.texts path := by
      refine .value ?_
      simp [texts, eq_of_filled hfilled]
    cases multi with
    | false =>
        simp only [Bool.false_eq_true, if_false, String.empty_append]
        (repeat' first | assumption | constructor) <;> decide
    | true => (repeat' first | assumption | constructor) <;> decide
  next => exact .nil

theorem ordinary_selinuxLines : OrdinaryLines v.texts v.selinuxLines := by
  unfold selinuxLines
  split
  next p hp =>
    have hpackage : Made v.texts p.package := .value (by simp [texts, hp])
    have hfile : Made v.texts p.repositoryFile := .value (by simp [texts, hp])
    have hkey : OrdinaryLines v.texts (signingKeyLines p) := by
      unfold signingKeyLines
      split
      next key hfilled =>
        have hkey : Made v.texts key := .value (by simp [texts, hp, eq_of_filled hfilled])
        (repeat' first | assumption | constructor) <;> decide
      next => exact .nil
    (repeat' first | assumption | constructor) <;> decide
  next => exact .nil

theorem ordinary_imageLines : OrdinaryLines v.texts v.imageLines := by
  have himages : Made v.texts v.imagesPath := .value (by simp [texts])
  unfold imageLines
  (repeat' first | assumption | constructor) <;> decide

theorem ordinary_documentLines : OrdinaryLines v.texts v.documentLines := by
  have hvip := v.ordinary_vipLines true
  have hinitialiser : Made v.texts v.initialiser := .value (by simp [texts])
  have hinitial : Made v.texts v.initialiserFile := .value (by simp [texts])
  have hserver : Made v.texts v.serverFile := .value (by simp [texts])
  have hagent : Made v.texts v.agentFile := .value (by simp [texts])
  have hconfig : Made v.texts v.configDir := .value (by simp [texts])
  unfold documentLines
  (repeat' first | assumption | constructor) <;> decide

/-- The lines that run the install script. -/
theorem ordinary_serviceLines :
    OrdinaryLines v.texts v.singleServiceLines ∧ OrdinaryLines v.texts v.multiServiceLines := by
  have hinstall : Made v.texts v.installPath := .value (by simp [texts])
  have hscript : Made v.texts v.installScript := .value (by simp [texts])
  have hbinary : Made v.texts v.binary := .value (by simp [texts])
  unfold singleServiceLines multiServiceLines binaryLine scriptPath
  constructor <;> split <;> (repeat' first | assumption | constructor) <;> decide

end

/-! ## §5. Blocks. -/

/-- Lines that are there if a text is there and not empty. -/
def whenFilled (block : String → List String) : Option String → List String
  | none => []
  | some s => if s = "" then [] else block s

theorem whenFilled_eq (block : String → List String) (o : Option String) :
    whenFilled block o = (match filled? o with
      | some s => block s
      | none => []) := by
  cases o with
  | none => rfl
  | some s =>
      by_cases hs : s = ""
      · rw [hs]
        rfl
      · simp [whenFilled, filled?, hs]

/-- Where a distribution keeps its files. -/
def directoryLines (distribution : String) : List String :=
  ["CONFIG_DIR=/etc/rancher/" ++ distribution,
   "MANIFESTS_DIR=/var/lib/rancher/" ++ distribution ++ "/server/manifests",
   "IMAGES_DIR=/var/lib/rancher/" ++ distribution ++ "/agent/images"]

/-- Running the install script of RKE2. -/
def rke2Lines (v : InstallValues) : InstallVariant → List String
  | .singleNode =>
      ["export INSTALL_RKE2_ARTIFACT_PATH=" ++ v.installPath,
       "sh " ++ v.installPath ++ "/" ++ v.installScript,
       "",
       "systemctl enable rke2-server.service"]
  | .multiNode =>
      ["export INSTALL_RKE2_ARTIFACT_PATH=" ++ v.installPath,
       "export INSTALL_RKE2_TYPE=$NODETYPE",
       "sh " ++ v.installPath ++ "/" ++ v.installScript,
       "",
       "systemctl enable rke2-$NODETYPE.service"]

/-- Running that of K3s. -/
def k3sLines (v : InstallValues) : InstallVariant → List String
  | .singleNode =>
      ["install -m 0755 " ++ v.installPath ++ "/" ++ v.binary ++ " /usr/local/bin/k3s",
       "INSTALL_K3S_SKIP_DOWNLOAD=true INSTALL_K3S_SKIP_START=true sh "
         ++ v.installPath ++ "/" ++ v.installScript,
       "",
       "systemctl enable k3s.service"]
  | .multiNode =>
      ["install -m 0755 " ++ v.installPath ++ "/" ++ v.binary ++ " /usr/local/bin/k3s",
       "INSTALL_K3S_SKIP_DOWNLOAD=true INSTALL_K3S_SKIP_START=true INSTALL_K3S_EXEC=$NODETYPE sh "
         ++ v.installPath ++ "/" ++ v.installScript,
       "",
       "if [ \"$NODETYPE\" = \"server\" ]; then",
       "  systemctl enable k3s.service",
       "else",
       "  systemctl enable k3s-agent.service",
       "fi"]

/-- Giving each node its role; a single node needs none. -/
def nodeLines (nodes : List NodeRole) : InstallVariant → List String
  | .singleNode => []
  | .multiNode => nodes.map fun n => "hosts[\"" ++ n.hostname ++ "\"]=" ++ n.role

/-- Copying the manifest. -/
def manifestLines (path : String) : InstallVariant → List String
  | .singleNode => ["", "mkdir -p $MANIFESTS_DIR", "cp " ++ path ++ " $MANIFESTS_DIR/"]
  | .multiNode => ["", "  mkdir -p $MANIFESTS_DIR", "  cp " ++ path ++ " $MANIFESTS_DIR/"]

/-- Installing a policy. -/
def policyLines (p : SelinuxInstall) : List String :=
  ["mkdir -p /etc/pki/rpm-gpg /etc/zypp/repos.d"]
  ++ whenFilled (fun key => ["cp " ++ key ++ " /etc/pki/rpm-gpg/", "rpm --import " ++ key])
      p.signingKey
  ++ ["cp " ++ p.repositoryFile ++ " /etc/zypp/repos.d/",
      "zypper --non-interactive install " ++ p.package,
      ""]

/-- How a script comes from its template and its values. -/
structure Rendering (v : InstallValues) (variant : InstallVariant) : Prop where
  /-- The template gives the script, which is the text that a build writes. -/
  rendered : Template.render variant.templateName v.fields = .ok (v.script variant)
  /-- The script is its lines, with a line feed after each. -/
  text : v.script variant = Text.unlines (v.scriptLines variant)
  /-- If no value has a line feed in it, these are the lines of the text. -/
  whole : (∀ s ∈ v.texts, '\n' ∉ s.toList) →
    Text.pieces '\n' (v.script variant) = v.scriptLines variant ++ [""]
  /-- The name of the distribution decides between two blocks in two places, and
  about nothing else. -/
  distribution : ∃ before between, ∀ name,
    { v with distribution := name }.scriptLines variant
      = before ++ directoryLines (if name = "rke2" then "rke2" else "k3s") ++ between
        ++ (if name = "rke2" then v.rke2Lines variant else v.k3sLines variant)
  /-- Each node of a cluster has its line, and nothing else has a line like
  that. -/
  nodes : ∃ before after,
    (∀ l ∈ before ++ after, ¬ ['h', 'o', 's', 't', 's', '['] <+: l.toList)
    ∧ ∀ nodes, { v with nodes := nodes }.scriptLines variant
        = before ++ nodeLines nodes variant ++ after
  /-- The manifest is copied if there is one, and its path is not empty. -/
  manifest : ∃ before after, ∀ manifest,
    { v with vipManifest := manifest }.scriptLines variant
      = before ++ whenFilled (manifestLines · variant) manifest ++ after
  /-- A policy is installed if there is one. -/
  policy : ∃ before after, ∀ policy,
    { v with selinux := policy }.scriptLines variant
      = before ++ (policy.elim [] policyLines) ++ after

/-- All lines of the script of a single node are ordinary. -/
theorem ordinary_singleLines (v : InstallValues) : OrdinaryLines v.texts v.singleLines := by
  have hcopy : OrdinaryLines v.texts ["mkdir -p $CONFIG_DIR",
      "cp " ++ v.configDir ++ "/" ++ v.serverFile ++ " $CONFIG_DIR/config.yaml"] := by
    have hconfig : Made v.texts v.configDir := .value (by simp [texts])
    have hserver : Made v.texts v.serverFile := .value (by simp [texts])
    (repeat' first | assumption | constructor) <;> decide
  exact (((((v.ordinary_headLines.append hcopy).append (v.ordinary_vipLines false)).append
    (.blank .nil)).append v.ordinary_selinuxLines).append v.ordinary_imageLines).append
      v.ordinary_serviceLines.1

/-- The lines that find the role of a node are ordinary around those of the
nodes. -/
theorem roleLines_nodes (v : InstallValues) :
    ∃ before after, OrdinaryLines v.texts before ∧ OrdinaryLines v.texts after
      ∧ ∀ nodes, { v with nodes := nodes }.roleLines
          = before ++ nodeLines nodes .multiNode ++ after := by
  refine ⟨_, _, ?_, ?_, fun nodes => rfl⟩
  · (repeat' constructor) <;> decide
  · (repeat' constructor) <;> decide

/-- Without the lines of its nodes, a script has ordinary lines only. -/
theorem scriptLines_nodes (v : InstallValues) (variant : InstallVariant) :
    ∃ before after, OrdinaryLines v.texts before ∧ OrdinaryLines v.texts after
      ∧ ∀ nodes, { v with nodes := nodes }.scriptLines variant
          = before ++ nodeLines nodes variant ++ after := by
  cases variant with
  | singleNode =>
      refine ⟨v.singleLines, [], v.ordinary_singleLines, .nil, fun nodes => ?_⟩
      rw [nodeLines, List.append_nil, List.append_nil]
      rfl
  | multiNode =>
      obtain ⟨before, after, hbefore, hafter, hroles⟩ := v.roleLines_nodes
      refine ⟨v.headLines ++ before,
        after ++ v.documentLines ++ v.selinuxLines ++ v.imageLines ++ v.multiServiceLines,
        v.ordinary_headLines.append hbefore,
        (((hafter.append v.ordinary_documentLines).append v.ordinary_selinuxLines).append
          v.ordinary_imageLines).append v.ordinary_serviceLines.2, fun nodes => ?_⟩
      rw [scriptLines, multiLines, hroles]
      simp only [List.append_assoc]
      rfl

/-- The lines of nodes are made of values and of fixed texts, too. -/
theorem made_nodeLines (v : InstallValues) (variant : InstallVariant) :
    MadeLines v.texts (nodeLines v.nodes variant) := by
  cases variant with
  | singleNode => exact .nil
  | multiNode =>
      refine .of_forall fun l hl => ?_
      obtain ⟨n, hn, rfl⟩ := List.mem_map.1 hl
      have hhost : Made v.texts n.hostname := .value (by
        simp only [texts, List.mem_append, List.mem_flatMap]
        exact .inr ⟨n, hn, by simp⟩)
      have hrole : Made v.texts n.role := .value (by
        simp only [texts, List.mem_append, List.mem_flatMap]
        exact .inr ⟨n, hn, by simp⟩)
      (repeat' first | assumption | constructor) <;> decide

/-- **A script has just its lines**, if no value has a line feed in it. -/
theorem pieces_script (v : InstallValues) (variant : InstallVariant)
    (hvalues : ∀ s ∈ v.texts, '\n' ∉ s.toList) :
    Text.pieces '\n' (v.script variant) = v.scriptLines variant ++ [""] := by
  obtain ⟨before, after, hbefore, hafter, hnodes⟩ := v.scriptLines_nodes variant
  have hlines : v.scriptLines variant = before ++ nodeLines v.nodes variant ++ after :=
    hnodes v.nodes
  rw [script, hlines]
  exact ((hbefore.made.append (v.made_nodeLines variant)).append hafter.made).whole hvalues

theorem headLines_eq (v : InstallValues) :
    v.headLines = ["#!/bin/bash", "set -euo pipefail", ""]
      ++ directoryLines (if v.distribution = "rke2" then "rke2" else "k3s") ++ [""] := by
  have hrke2 : directoryLines "rke2" = ["CONFIG_DIR=/etc/rancher/rke2",
      "MANIFESTS_DIR=/var/lib/rancher/rke2/server/manifests",
      "IMAGES_DIR=/var/lib/rancher/rke2/agent/images"] := by decide
  have hk3s : directoryLines "k3s" = ["CONFIG_DIR=/etc/rancher/k3s",
      "MANIFESTS_DIR=/var/lib/rancher/k3s/server/manifests",
      "IMAGES_DIR=/var/lib/rancher/k3s/agent/images"] := by decide
  simp only [headLines, isRke2, decide_eq_true_eq]
  split
  next => rw [hrke2]
  next => rw [hk3s]

theorem singleServiceLines_eq (v : InstallValues) :
    v.singleServiceLines
      = if v.distribution = "rke2" then v.rke2Lines .singleNode else v.k3sLines .singleNode := by
  unfold singleServiceLines isRke2 rke2Lines k3sLines binaryLine scriptPath
  simp only [decide_eq_true_eq]
  split
  next => simp only [String.append_assoc]
  next => simp only [String.append_assoc]

theorem multiServiceLines_eq (v : InstallValues) :
    v.multiServiceLines
      = if v.distribution = "rke2" then v.rke2Lines .multiNode else v.k3sLines .multiNode := by
  unfold multiServiceLines isRke2 rke2Lines k3sLines binaryLine scriptPath
  simp only [decide_eq_true_eq]
  split
  next => simp only [String.append_assoc]
  next => simp only [String.append_assoc]

theorem vipLines_single (v : InstallValues) :
    v.vipLines "" = whenFilled (manifestLines · .singleNode) v.vipManifest := by
  rw [whenFilled_eq, vipLines]
  cases filled? v.vipManifest with
  | none => rfl
  | some path => simp only [String.empty_append, manifestLines]

theorem vipLines_multi (v : InstallValues) :
    v.vipLines "  " = whenFilled (manifestLines · .multiNode) v.vipManifest := by
  have hcopy : "  " ++ "cp " = "  cp " := by decide
  have hdir : "  " ++ "mkdir -p $MANIFESTS_DIR" = "  mkdir -p $MANIFESTS_DIR" := by decide
  rw [whenFilled_eq, vipLines]
  cases filled? v.vipManifest with
  | none => rfl
  | some path => simp only [hcopy, hdir, manifestLines]

theorem selinuxLines_eq (v : InstallValues) : v.selinuxLines = v.selinux.elim [] policyLines := by
  unfold selinuxLines
  cases v.selinux with
  | none => rfl
  | some p =>
      show _ = policyLines p
      rw [policyLines, whenFilled_eq]
      rfl

theorem scriptLines_distribution (v : InstallValues) (variant : InstallVariant) :
    ∃ before between, ∀ name, { v with distribution := name }.scriptLines variant
      = before ++ directoryLines (if name = "rke2" then "rke2" else "k3s") ++ between
        ++ (if name = "rke2" then v.rke2Lines variant else v.k3sLines variant) := by
  cases variant with
  | singleNode =>
      refine ⟨["#!/bin/bash", "set -euo pipefail", ""],
        [""] ++ ["mkdir -p $CONFIG_DIR",
            "cp " ++ v.configDir ++ "/" ++ v.serverFile ++ " $CONFIG_DIR/config.yaml"]
          ++ v.vipLines "" ++ [""] ++ v.selinuxLines ++ v.imageLines, fun name => ?_⟩
      rw [scriptLines, singleLines, headLines_eq, singleServiceLines_eq]
      simp only [List.append_assoc]
      rfl
  | multiNode =>
      refine ⟨["#!/bin/bash", "set -euo pipefail", ""],
        [""] ++ v.roleLines ++ v.documentLines ++ v.selinuxLines ++ v.imageLines, fun name => ?_⟩
      rw [scriptLines, multiLines, headLines_eq, multiServiceLines_eq]
      simp only [List.append_assoc]
      rfl

/-- The initialising node copies the manifest, too. -/
theorem documentLines_manifest (v : InstallValues) :
    ∃ before after, ∀ manifest, { v with vipManifest := manifest }.documentLines
      = before ++ whenFilled (manifestLines · .multiNode) manifest ++ after := by
  refine ⟨["mkdir -p $CONFIG_DIR",
      "if [ \"$HOSTNAME\" = \"" ++ v.initialiser ++ "\" ]; then",
      "  NODETYPE=server",
      "  CONFIGFILE=" ++ v.initialiserFile],
    ["elif [ \"$NODETYPE\" = \"server\" ]; then",
      "  CONFIGFILE=" ++ v.serverFile,
      "else",
      "  CONFIGFILE=" ++ v.agentFile,
      "fi",
      "",
      "cp " ++ v.configDir ++ "/$CONFIGFILE $CONFIG_DIR/config.yaml",
      ""], fun manifest => ?_⟩
  rw [documentLines, vipLines_multi]

theorem scriptLines_manifest (v : InstallValues) (variant : InstallVariant) :
    ∃ before after, ∀ manifest, { v with vipManifest := manifest }.scriptLines variant
      = before ++ whenFilled (manifestLines · variant) manifest ++ after := by
  cases variant with
  | singleNode =>
      refine ⟨v.headLines ++ ["mkdir -p $CONFIG_DIR",
          "cp " ++ v.configDir ++ "/" ++ v.serverFile ++ " $CONFIG_DIR/config.yaml"],
        [""] ++ v.selinuxLines ++ v.imageLines ++ v.singleServiceLines, fun manifest => ?_⟩
      rw [scriptLines, singleLines, vipLines_single]
      simp only [List.append_assoc]
      rfl
  | multiNode =>
      obtain ⟨before, after, hdocuments⟩ := v.documentLines_manifest
      refine ⟨v.headLines ++ v.roleLines ++ before,
        after ++ v.selinuxLines ++ v.imageLines ++ v.multiServiceLines, fun manifest => ?_⟩
      rw [scriptLines, multiLines, hdocuments]
      simp only [List.append_assoc]
      rfl

theorem scriptLines_policy (v : InstallValues) (variant : InstallVariant) :
    ∃ before after, ∀ policy, { v with selinux := policy }.scriptLines variant
      = before ++ policy.elim [] policyLines ++ after := by
  cases variant with
  | singleNode =>
      refine ⟨v.headLines ++ ["mkdir -p $CONFIG_DIR",
            "cp " ++ v.configDir ++ "/" ++ v.serverFile ++ " $CONFIG_DIR/config.yaml"]
          ++ v.vipLines "" ++ [""],
        v.imageLines ++ v.singleServiceLines, fun policy => ?_⟩
      rw [scriptLines, singleLines, selinuxLines_eq]
      simp only [List.append_assoc]
      rfl
  | multiNode =>
      refine ⟨v.headLines ++ v.roleLines ++ v.documentLines,
        v.imageLines ++ v.multiServiceLines, fun policy => ?_⟩
      rw [scriptLines, multiLines, selinuxLines_eq]
      simp only [List.append_assoc]
      rfl

/-- **Scripts are what their templates say**, whatever the values are. -/
theorem script_rendering (v : InstallValues) (variant : InstallVariant) :
    Rendering v variant := by
  obtain ⟨before, after, hbefore, hafter, hnodes⟩ := v.scriptLines_nodes variant
  exact {
    rendered := v.render_script variant
    text := rfl
    whole := v.pieces_script variant
    distribution := v.scriptLines_distribution variant
    nodes := ⟨before, after, List.forall_mem_append.2 ⟨hbefore.not_node, hafter.not_node⟩,
      hnodes⟩
    manifest := v.scriptLines_manifest variant
    policy := v.scriptLines_policy variant }

end InstallValues

end ClusterBoot
