/-
  ClusterBoot.Proofs.ScriptReferences
  ────────────────────────────────
  **WHICH FILES A SCRIPT NEEDS.**

  A script is read line by line, as far as the scripts here go: a line is
  words, the assignments before a command are passed over, and a few commands
  take a file that must be there.  A variable in the name of a file can have
  any value that some line of the script gives it.  Quotes mean nothing, and
  no word is looked into: what a command substitution runs is not seen.

  What the lines of a cluster's script need is then a matter of its values
  alone (`mem_needs_scriptLines`).  They are the lines of its text as long as
  no host name has a line feed in it (`needs_script`); behind one, the rest of
  the name would be a command of its own.
-/
import ClusterBoot.Layout
import ClusterBoot.Proofs.Paths
import ClusterBoot.Proofs.ScriptRendering
import Mathlib.Data.List.TakeWhile
import Mathlib.Tactic.Tauto

namespace ClusterBoot.Shell

/-! ## §1. Lines. -/

/-- The words of a line. -/
def words (line : List Char) : List (List Char) :=
  (Text.piecesOf ' ' line).filter (· ≠ [])

/-- Whether a character can be in the name of a variable. -/
def isNameChar (c : Char) : Bool :=
  c.isAlphanum || c = '_'

/-- Whether a word assigns a value to a variable. -/
def isAssignment (word : List Char) : Bool :=
  !(word.takeWhile isNameChar).isEmpty && (word.dropWhile isNameChar).head? = some '='

/-- A command and its arguments. -/
def command (line : List Char) : List (List Char) :=
  (words line).dropWhile isAssignment

/-- The file that a command copies, imports, installs or runs. -/
def operand? (line : List Char) : Option (List Char) :=
  match command line with
  | ['c', 'p'] :: path :: _ => some path
  | ['r', 'p', 'm'] :: ['-', '-', 'i', 'm', 'p', 'o', 'r', 't'] :: path :: _ => some path
  | ['i', 'n', 's', 't', 'a', 'l', 'l'] :: ['-', 'm'] :: _ :: path :: _ => some path
  | ['s', 'h'] :: path :: _ => some path
  | _ => none

/-- The value that a line gives to a variable. -/
def value? (name line : List Char) : Option (List Char) :=
  match words line with
  | [word] =>
      if isAssignment word && (name ++ ['=']).isPrefixOf word then
        some (word.drop (name.length + 1))
      else none
  | _ => none

/-! ## §2. What is needed. -/

/-- What must be there for a command to succeed. -/
inductive Need where
  /-- A file. -/
  | file (path : String)
  /-- Some file in a directory. -/
  | someFile (dir : String)
  deriving Repr, DecidableEq

/-- What a path asks for; a star stands for any files. -/
def Need.ofPath (path : List Char) : Need :=
  match path.reverse with
  | '*' :: '/' :: dir => someFile (String.ofList dir.reverse)
  | _ => file (String.ofList path)

/-- The files that the commands of a script take. -/
def operands (lines : List String) : List (List Char) :=
  lines.filterMap fun line => operand? line.toList

/-- The values that a script gives to a variable. -/
def values (lines : List String) (name : List Char) : List (List Char) :=
  lines.filterMap fun line => value? name line.toList

/-- The paths that an operand can stand for: a variable at its end has any of
its values. -/
def expand (values : List Char → List (List Char)) (operand : List Char) : List (List Char) :=
  match operand.dropWhile (· ≠ '$') with
  | [] => [operand]
  | _ :: name => (values name).map (operand.takeWhile (· ≠ '$') ++ ·)

/-- What the lines of a script need below the directory that it runs in. -/
def needs (lines : List String) : List Need :=
  (((operands lines).flatMap (expand (values lines))).filter fun path => path.head? ≠ some '/').map
    Need.ofPath

/-- What is needed is there: the path leads to a file, or some file that a
star stands for is in the directory. -/
def Need.IsMet (tree : FileTree) (base : String) : Need → Prop
  | file path => ∃ content, tree.read (Path.join base path) = .ok content
  | someFile dir => ∃ name content, Path.IsName name ∧ name.toList.head? ≠ some '.'
      ∧ tree.read (Path.join (Path.join base dir) name) = .ok content

/-! ## §3. Lines with values in them. -/

/-- What comes before a space is a word of its own. -/
theorem words_append_space {front : List Char} (line : List Char) (hne : front ≠ [])
    (hspace : ' ' ∉ front) : words (front ++ ' ' :: line) = front :: words line := by
  rw [words, Text.piecesOf_append_sep, Text.piecesOf_of_notMem hspace, List.singleton_append,
      List.filter_cons_of_pos (by simpa using hne)]
  rfl

/-- What a line begins with is what its first word begins with. -/
theorem words_append {front : List Char} (line : List Char) (hne : front ≠ [])
    (hspace : ' ' ∉ front) : ∃ rest more, words (front ++ line) = (front ++ rest) :: more := by
  obtain ⟨p, ps, hp⟩ := List.exists_cons_of_ne_nil (Text.piecesOf_ne_nil ' ' line)
  refine ⟨p, ps.filter (· ≠ []), ?_⟩
  rw [words, Text.piecesOf_append_of_notMem hspace hp, List.filter_cons_of_pos]
  simp [hne]

/-- A line that is no command that takes a file, and gives no value to any
variable. -/
def Inert (line : String) : Prop :=
  operand? line.toList = none ∧ ∀ name, value? name line.toList = none

/-- Taken as one line, the line of a node is inert.  This says nothing about a
host name with a line feed in it, which makes the line several, or with a
command substitution, which a shell runs wherever it stands. -/
theorem inert_nodeLine (n : NodeRole) : Inert (InstallValues.nodeLine n) := by
  obtain ⟨rest, more, hwords⟩ := words_append (n.hostname.toList ++ ("\"]=".toList ++ n.role.toList))
    (by decide : ['h', 'o', 's', 't', 's', '[', '"'] ≠ []) (by decide)
  have hline : words (InstallValues.nodeLine n).toList
      = ('h' :: 'o' :: 's' :: 't' :: 's' :: '[' :: '"' :: rest) :: more := by
    unfold InstallValues.nodeLine
    rw [String.toList_append, String.toList_append, String.toList_append, List.append_assoc,
        List.append_assoc]
    exact hwords
  constructor
  · rw [operand?, command, hline]
    rfl
  · intro name
    rw [value?, hline]
    -- the word begins with a name and a bracket, which is no assignment
    cases more <;> rfl

/-- Taken as one line, so is the line that compares the host name with that of
the initialising node. -/
theorem inert_initialiserLine (initialiser : String) :
    Inert ("if [ \"$HOSTNAME\" = \"" ++ initialiser ++ "\" ]; then") := by
  have hline : words ("if [ \"$HOSTNAME\" = \"" ++ initialiser ++ "\" ]; then").toList
      = ['i', 'f'] :: ['['] :: words ("\"$HOSTNAME\" = \"".toList ++ initialiser.toList
          ++ "\" ]; then".toList) := by
    rw [← words_append_space _ (by decide) (by decide : ' ' ∉ ['[']),
        ← words_append_space _ (by decide) (by decide : ' ' ∉ ['i', 'f']), String.toList_append,
        String.toList_append]
    rfl
  constructor
  · rw [operand?, command, hline]
    rfl
  · intro name
    rw [value?, hline]

/-! ## §4. The scripts of builds. -/

theorem operands_append (as bs : List String) : operands (as ++ bs) = operands as ++ operands bs :=
  List.filterMap_append

theorem values_append (as bs : List String) (name : List Char) :
    values (as ++ bs) name = values as name ++ values bs name :=
  List.filterMap_append

/-- Inert lines need nothing. -/
theorem operands_of_inert {lines : List String} (h : ∀ l ∈ lines, Inert l) : operands lines = [] :=
  List.filterMap_eq_nil_iff.2 fun l hl => (h l hl).1

theorem values_of_inert {lines : List String} (h : ∀ l ∈ lines, Inert l) (name : List Char) :
    values lines name = [] :=
  List.filterMap_eq_nil_iff.2 fun l hl => (h l hl).2 name

/-- What the script of a build is made from: `vip` says whether there is a
manifest of virtual addresses, and `selinux` whether there is a policy, and
its signing key. -/
def buildValues (d : Distribution) (arch : Arch) (vip : Bool) (selinux : Option Bool)
    (initialiser : String) (nodes : List NodeRole) : InstallValues where
  distribution := d.name
  installPath := InstallPaths.default.install
  imagesPath := InstallPaths.default.images
  installScript := d.installScriptName
  binary := installBinary d arch
  configDir := InstallPaths.default.config
  serverFile := Cluster.serverFile
  agentFile := Cluster.agentFile
  initialiserFile := Cluster.initialiserFile
  initialiser := initialiser
  vipManifest := if vip then some Layout.vipManifestInScript else none
  selinux := selinux.map fun key =>
    ⟨d.name ++ "-selinux", Layout.repositoryFileInScript (d.name ++ "-selinux" ++ ".repo"),
      if key then some Layout.signingKeyInScript else none⟩
  nodes := nodes

/-- The variable that the name of a role document is in. -/
def documentVariable : List Char := ['C', 'O', 'N', 'F', 'I', 'G', 'F', 'I', 'L', 'E']

/-- What lines refer to: the operands of their commands, and the values of the
variable for role documents. -/
structure Refers (lines : List String) (files documents : List String) : Prop where
  /-- The operands. -/
  operands : operands lines = files.map String.toList
  /-- The values. -/
  values : values lines documentVariable = documents.map String.toList

instance (lines files documents : List String) : Decidable (Refers lines files documents) :=
  decidable_of_iff (operands lines = files.map String.toList
      ∧ values lines documentVariable = documents.map String.toList)
    ⟨fun h => ⟨h.1, h.2⟩, fun h => ⟨h.operands, h.values⟩⟩

theorem Refers.append {as bs files files' documents documents' : List String}
    (ha : Refers as files documents) (hb : Refers bs files' documents') :
    Refers (as ++ bs) (files ++ files') (documents ++ documents') where
  operands := by rw [operands_append, ha.operands, hb.operands, List.map_append]
  values := by rw [values_append, ha.values, hb.values, List.map_append]

theorem Refers.of_inert {lines : List String} (h : ∀ l ∈ lines, Inert l) : Refers lines [] [] :=
  ⟨operands_of_inert h, values_of_inert h _⟩

section
variable (d : Distribution) (arch : Arch) (vip : Bool) (selinux : Option Bool)
  (initialiser : String) (nodes : List NodeRole)

/-- The manifest that a script refers to. -/
def vipFiles (vip : Bool) : List String :=
  if vip then ["kubernetes/manifests/k8s-vip.yaml"] else []

/-- The files of the SELinux policy that a script refers to. -/
def selinuxFiles (d : Distribution) : Option Bool → List String
  | none => []
  | some key =>
      (if key then ["kubernetes/gpg-keys/rancher-public.key", "kubernetes/gpg-keys/rancher-public.key"]
        else [])
      ++ ["kubernetes/rpm-repos/" ++ d.name ++ "-selinux.repo"]

/-- The files of a distribution that a script refers to. -/
def installFiles (d : Distribution) (arch : Arch) : List String :=
  (if d = .k3s then ["kubernetes/install/" ++ installBinary d arch] else [])
    ++ ["kubernetes/install/" ++ d.installScriptName]

theorem refers_headLines :
    Refers (buildValues d arch vip selinux initialiser nodes).headLines [] [] := by
  show Refers (buildValues d .x86_64 false none "" []).headLines [] []
  cases d <;> decide +kernel

theorem refers_vipLines (margin : Bool) :
    Refers ((buildValues d arch vip selinux initialiser nodes).vipLines (if margin then "  " else ""))
      (vipFiles vip) [] := by
  show Refers ((buildValues .k3s .x86_64 vip none "" []).vipLines _) (vipFiles vip) []
  cases vip with
  | false => exact ⟨rfl, rfl⟩
  | true => cases margin <;> decide +kernel

theorem refers_selinuxLines :
    Refers (buildValues d arch vip selinux initialiser nodes).selinuxLines
      (selinuxFiles d selinux) [] := by
  show Refers (buildValues d .x86_64 false selinux "" []).selinuxLines _ []
  cases selinux with
  | none => exact ⟨rfl, rfl⟩
  | some key => cases d <;> cases key <;> decide +kernel

theorem refers_imageLines :
    Refers (buildValues d arch vip selinux initialiser nodes).imageLines
      ["kubernetes/images/*"] [] := by
  show Refers (buildValues .k3s .x86_64 false none "" []).imageLines _ []
  decide +kernel

theorem refers_singleServiceLines :
    Refers (buildValues d arch vip selinux initialiser nodes).singleServiceLines
      (installFiles d arch) [] := by
  show Refers (buildValues d arch false none "" []).singleServiceLines _ []
  cases d <;> cases arch <;> decide +kernel

theorem refers_multiServiceLines :
    Refers (buildValues d arch vip selinux initialiser nodes).multiServiceLines
      (installFiles d arch) [] := by
  show Refers (buildValues d arch false none "" []).multiServiceLines _ []
  cases d <;> cases arch <;> decide +kernel

theorem refers_roleLines :
    Refers (buildValues d arch vip selinux initialiser nodes).roleLines [] [] := by
  have hbefore : Refers
      ["HOSTNAME=$(cat /etc/hostname)", "if [ ! \"$HOSTNAME\" ]; then",
       "  HOSTNAME=$(cat /proc/sys/kernel/hostname)", "fi", "", "declare -A hosts"] [] [] := by
    decide +kernel
  -- the lines of the nodes are the only ones whose number and text are not fixed
  have hnodes : Refers (nodes.map InstallValues.nodeLine) [] [] := by
    apply Refers.of_inert
    intro l hl
    obtain ⟨n, -, rfl⟩ := List.mem_map.1 hl
    exact inert_nodeLine n
  have hafter : Refers
      ["", "NODETYPE=\"$\x7bhosts[$HOSTNAME]:-none\x7d\"",
       "if [ \"$NODETYPE\" = \"none\" ]; then",
       "  echo \"ERROR: $HOSTNAME is not listed in the cluster nodes\"",
       "  exit 1", "fi", ""] [] [] := by
    decide +kernel
  exact (hbefore.append hnodes).append hafter

/-- The variable for role documents has the name of each of them. -/
theorem refers_documentLines :
    Refers (buildValues d arch vip selinux initialiser nodes).documentLines
      (vipFiles vip ++ ["kubernetes/config/$CONFIGFILE"])
      [Cluster.initialiserFile, Cluster.serverFile, Cluster.agentFile] := by
  -- only this line depends on the name of a node; the others are fixed texts
  have hinert : Refers ["if [ \"$HOSTNAME\" = \"" ++ initialiser ++ "\" ]; then"] [] [] := by
    apply Refers.of_inert
    intro l hl
    rw [List.mem_singleton.1 hl]
    exact inert_initialiserLine initialiser
  have hbefore : Refers ["mkdir -p $CONFIG_DIR"] [] [] := by decide +kernel
  have hinitialiser : Refers ["  NODETYPE=server", "  CONFIGFILE=" ++ Cluster.initialiserFile] []
      [Cluster.initialiserFile] := by decide +kernel
  have hvip := refers_vipLines d arch vip selinux initialiser nodes true
  have hafter : Refers
      ["elif [ \"$NODETYPE\" = \"server\" ]; then", "  CONFIGFILE=" ++ Cluster.serverFile,
       "else", "  CONFIGFILE=" ++ Cluster.agentFile, "fi", "",
       "cp " ++ InstallPaths.default.config ++ "/$CONFIGFILE $CONFIG_DIR/config.yaml", ""]
      ["kubernetes/config/$CONFIGFILE"] [Cluster.serverFile, Cluster.agentFile] := by
    decide +kernel
  exact ((hbefore.append (hinert.append hinitialiser)).append hvip).append hafter

/-- What the script of a build refers to. -/
theorem refers_scriptLines (variant : InstallVariant) :
    Refers ((buildValues d arch vip selinux initialiser nodes).scriptLines variant)
      (match variant with
        | .singleNode => ["kubernetes/config/server.yaml"] ++ vipFiles vip ++ selinuxFiles d selinux
            ++ ["kubernetes/images/*"] ++ installFiles d arch
        | .multiNode => vipFiles vip ++ ["kubernetes/config/$CONFIGFILE"] ++ selinuxFiles d selinux
            ++ ["kubernetes/images/*"] ++ installFiles d arch)
      (match variant with
        | .singleNode => []
        | .multiNode => [Cluster.initialiserFile, Cluster.serverFile, Cluster.agentFile]) := by
  have hhead := refers_headLines d arch vip selinux initialiser nodes
  have hselinux := refers_selinuxLines d arch vip selinux initialiser nodes
  have himages := refers_imageLines d arch vip selinux initialiser nodes
  cases variant with
  | singleNode =>
      have hserver : Refers ["mkdir -p $CONFIG_DIR",
          "cp " ++ InstallPaths.default.config ++ "/" ++ Cluster.serverFile ++ " $CONFIG_DIR/config.yaml"]
          ["kubernetes/config/server.yaml"] [] := by decide +kernel
      have hvip := refers_vipLines d arch vip selinux initialiser nodes false
      have hblank : Refers [""] [] [] := by decide +kernel
      have hservice := refers_singleServiceLines d arch vip selinux initialiser nodes
      have hall : Refers ((buildValues d arch vip selinux initialiser nodes).scriptLines .singleNode)
          _ _ := (((((hhead.append hserver).append hvip).append hblank).append hselinux).append
            himages).append hservice
      simpa only [List.nil_append, List.append_nil] using hall
  | multiNode =>
      have hrole := refers_roleLines d arch vip selinux initialiser nodes
      have hdocuments := refers_documentLines d arch vip selinux initialiser nodes
      have hservice := refers_multiServiceLines d arch vip selinux initialiser nodes
      have hall : Refers ((buildValues d arch vip selinux initialiser nodes).scriptLines .multiNode)
          _ _ := ((((hhead.append hrole).append hdocuments).append hselinux).append
            himages).append hservice
      simpa only [List.nil_append, List.append_nil] using hall

end

/-! ## §5. What a script needs. -/

/-- An operand that stands for one file below the directory of the script. -/
structure Plain (file : String) : Prop where
  /-- It has no variable. -/
  fixed : '$' ∉ file.toList
  /-- It is relative. -/
  relative : file.toList.head? ≠ some '/'
  /-- It does not stand for several files. -/
  single : file.toList.getLast? ≠ some '*'

instance (file : String) : Decidable (Plain file) :=
  decidable_of_iff ('$' ∉ file.toList ∧ file.toList.head? ≠ some '/'
      ∧ file.toList.getLast? ≠ some '*')
    ⟨fun h => ⟨h.1, h.2.1, h.2.2⟩, fun h => ⟨h.fixed, h.relative, h.single⟩⟩

theorem Plain.ofPath {file : String} (h : Plain file) : Need.ofPath file.toList = .file file := by
  unfold Need.ofPath
  split
  next dir hdir =>
    have hlast : file.toList.getLast? = some '*' := by
      rw [← List.head?_reverse, hdir]
      rfl
    exact absurd hlast h.single
  next => rw [String.ofList_toList]

/-- What one operand asks for. -/
def needsOf (values : List Char → List (List Char)) (operand : List Char) : List Need :=
  ((expand values operand).filter fun path => path.head? ≠ some '/').map Need.ofPath

theorem needs_eq (lines : List String) :
    needs lines = (operands lines).flatMap (needsOf (values lines)) := by
  unfold needs
  induction operands lines with
  | nil => rfl
  | cons operand rest ih =>
      rw [List.flatMap_cons, List.flatMap_cons, List.filter_append, List.map_append, ih]
      rfl

theorem Plain.needsOf {file : String} (h : Plain file) (values : List Char → List (List Char)) :
    needsOf values file.toList = [.file file] := by
  have hexpand : expand values file.toList = [file.toList] := by
    have hfixed : file.toList.dropWhile (· ≠ '$') = [] := by
      rw [List.dropWhile_eq_nil_iff]
      intro c hc
      have hne : c ≠ '$' := fun heq => h.fixed (heq ▸ hc)
      simpa using hne
    rw [expand, hfixed]
  rw [Shell.needsOf, hexpand, List.filter_cons_of_pos (by simpa using h.relative)]
  simp [h.ofPath]

/-- The operand with a variable asks for each role document. -/
theorem needsOf_document {lines files documents : List String} (h : Refers lines files documents)
    (hdocuments : ∀ doc ∈ documents, Plain ("kubernetes/config/" ++ doc)) :
    needsOf (values lines) "kubernetes/config/$CONFIGFILE".toList
      = documents.map fun doc => .file ("kubernetes/config/" ++ doc) := by
  have hexpand : expand (values lines) "kubernetes/config/$CONFIGFILE".toList
      = (values lines documentVariable).map ("kubernetes/config/".toList ++ ·) := rfl
  rw [needsOf, hexpand, h.values]
  -- by induction on the documents, whatever the lines are that they come from
  clear h hexpand
  induction documents with
  | nil => rfl
  | cons doc docs ih =>
      have hplain := hdocuments doc (by simp)
      have hrest := ih fun other hother => hdocuments other (List.mem_cons_of_mem _ hother)
      rw [List.map_cons, List.map_cons, ← String.toList_append,
          List.filter_cons_of_pos (by simp), List.map_cons, hplain.ofPath,
          hrest, List.map_cons]

/-- The order of what is needed does not matter. -/
private theorem mem_append_swap {as bs cs ds es : List Need} {need : Need} :
    need ∈ as ++ bs ++ cs ++ ds ++ es ↔ need ∈ as ++ (bs ++ cs ++ es) ++ ds := by
  simp only [List.mem_append]
  tauto

private theorem mem_append_swap' {as bs cs ds es : List Need} {need : Need} :
    need ∈ bs ++ as ++ cs ++ ds ++ es ↔ need ∈ as ++ (bs ++ cs ++ es) ++ ds := by
  simp only [List.mem_append]
  tauto

/-- The files of the role documents that a script can select. -/
def documentFiles : InstallVariant → List String
  | .singleNode => [Cluster.serverFile]
  | .multiNode => [Cluster.initialiserFile, Cluster.serverFile, Cluster.agentFile]

/-- What the script of a build needs. -/
def buildNeeds (d : Distribution) (arch : Arch) (vip : Bool) (selinux : Option Bool)
    (variant : InstallVariant) : List Need :=
  (documentFiles variant).map (fun doc => .file ("kubernetes/config/" ++ doc))
    ++ (vipFiles vip ++ selinuxFiles d selinux ++ installFiles d arch).map .file
    ++ [.someFile "kubernetes/images"]

/-- The script of a build needs the role documents that it can select, the
manifest and the files of the SELinux policy if there are any, the files of
the distribution, and some bundle of images. -/
theorem mem_needs_scriptLines (d : Distribution) (arch : Arch) (vip : Bool) (selinux : Option Bool)
    (initialiser : String) (nodes : List NodeRole) (variant : InstallVariant) (need : Need) :
    need ∈ needs ((buildValues d arch vip selinux initialiser nodes).scriptLines variant)
      ↔ need ∈ buildNeeds d arch vip selinux variant := by
  have hvip : ∀ f ∈ vipFiles vip, Plain f := by cases vip <;> decide +kernel
  have hselinux : ∀ f ∈ selinuxFiles d selinux, Plain f := by
    cases selinux with
    | none => exact fun f hf => absurd hf (by simp [selinuxFiles])
    | some key => cases d <;> cases key <;> decide +kernel
  have hinstall : ∀ f ∈ installFiles d arch, Plain f := by
    cases d <;> cases arch <;> decide +kernel
  have hplain : ∀ {values} {files : List String}, (∀ f ∈ files, Plain f) →
      (files.map String.toList).flatMap (needsOf values) = files.map .file := by
    intro values files hfiles
    induction files with
    | nil => rfl
    | cons f fs ih =>
        rw [List.map_cons, List.flatMap_cons, (hfiles f (by simp)).needsOf,
            ih fun g hg => hfiles g (List.mem_cons_of_mem _ hg)]
        rfl
  -- the star has no variable in it, so the values do not matter
  have himages : ∀ values : List Char → List (List Char),
      (["kubernetes/images/*"].map String.toList).flatMap (needsOf values)
        = [.someFile "kubernetes/images"] := fun _ => rfl
  have hrefers := refers_scriptLines d arch vip selinux initialiser nodes variant
  rw [needs_eq, hrefers.operands]
  unfold buildNeeds
  cases variant with
  | singleNode =>
      have hserver : ∀ f ∈ ["kubernetes/config/server.yaml"], Plain f := by decide +kernel
      have hname : (documentFiles .singleNode).map (fun doc => Need.file ("kubernetes/config/" ++ doc))
          = ["kubernetes/config/server.yaml"].map .file := by decide +kernel
      rw [hname]
      simp only [List.map_append, List.flatMap_append, hplain hserver, hplain hvip,
        hplain hselinux, hplain hinstall, himages]
      exact mem_append_swap
  | multiNode =>
      have hdocuments := needsOf_document hrefers (by decide +kernel)
      have hoperand : (["kubernetes/config/$CONFIGFILE"].map String.toList).flatMap
          (needsOf (values ((buildValues d arch vip selinux initialiser nodes).scriptLines
            .multiNode))) = _ := (List.append_nil _).trans hdocuments
      simp only [List.map_append, List.flatMap_append, hplain hvip, hoperand, hplain hselinux,
        hplain hinstall, himages]
      exact mem_append_swap'

/-! ## §6. The lines of a written script. -/

/-- An empty line needs nothing. -/
theorem needs_append_blank (lines : List String) : needs (lines ++ [""]) = needs lines := by
  have hblank : ∀ l ∈ [""], Inert l := by
    intro l hl
    rw [List.mem_singleton.1 hl]
    exact ⟨rfl, fun _ => rfl⟩
  have hoperands : operands (lines ++ [""]) = operands lines := by
    rw [operands_append, operands_of_inert hblank, List.append_nil]
  have hvalues : values (lines ++ [""]) = values lines := by
    funext name
    rw [values_append, values_of_inert hblank, List.append_nil]
  rw [needs, hoperands, hvalues, needs]

section
variable {initialiser : String} {nodes : List NodeRole}

/-- Of all that the script of a build is made from, only the host names and the
roles of the nodes are not fixed. -/
theorem texts_buildValues_unbroken (d : Distribution) (arch : Arch) (vip : Bool)
    (selinux : Option Bool) (hinitialiser : '\n' ∉ initialiser.toList)
    (hnodes : ∀ n ∈ nodes, '\n' ∉ n.hostname.toList ∧ '\n' ∉ n.role.toList) :
    ∀ s ∈ (buildValues d arch vip selinux initialiser nodes).texts, '\n' ∉ s.toList := by
  have hpaths : ∀ s ∈ [d.name, InstallPaths.default.install, InstallPaths.default.images,
      d.installScriptName, installBinary d arch, InstallPaths.default.config, Cluster.serverFile,
      Cluster.agentFile, Cluster.initialiserFile], '\n' ∉ s.toList := by
    cases d <;> cases arch <;> decide +kernel
  have hvip : ∀ s ∈ (buildValues .k3s .x86_64 vip none "" []).vipManifest.toList,
      '\n' ∉ s.toList := by
    cases vip <;> decide +kernel
  have hselinux : ∀ s ∈ (buildValues d .x86_64 false selinux "" []).selinux.toList.flatMap
      (fun p => [p.package, p.repositoryFile] ++ p.signingKey.toList), '\n' ∉ s.toList := by
    cases selinux with
    | none => exact fun s hs => absurd hs List.not_mem_nil
    | some key => cases d <;> cases key <;> decide +kernel
  refine List.forall_mem_append.2 ⟨List.forall_mem_append.2 ⟨List.forall_mem_append.2
    ⟨?_, hvip⟩, hselinux⟩, ?_⟩
  · show ∀ s ∈ [d.name, _, _, _, _, _, _, _, _] ++ [initialiser], '\n' ∉ s.toList
    exact List.forall_mem_append.2 ⟨hpaths, List.forall_mem_singleton.2 hinitialiser⟩
  · intro s hs
    obtain ⟨n, hn, hs⟩ := List.mem_flatMap.1 hs
    obtain ⟨hhost, hrole⟩ := hnodes n hn
    rcases List.mem_cons.1 hs with rfl | hs
    · exact hhost
    · rw [List.mem_singleton.1 hs]
      exact hrole

/-- **What the text of a script needs is what its lines need**, if no value breaks a
line. -/
theorem needs_script (d : Distribution) (arch : Arch) (vip : Bool) (selinux : Option Bool)
    (hinitialiser : '\n' ∉ initialiser.toList)
    (hnodes : ∀ n ∈ nodes, '\n' ∉ n.hostname.toList ∧ '\n' ∉ n.role.toList)
    (variant : InstallVariant) :
    needs (Text.pieces '\n' ((buildValues d arch vip selinux initialiser nodes).script variant))
      = needs ((buildValues d arch vip selinux initialiser nodes).scriptLines variant) := by
  rw [InstallValues.pieces_script _ variant
    (texts_buildValues_unbroken d arch vip selinux hinitialiser hnodes), needs_append_blank]

end

end ClusterBoot.Shell
