/-
  ClusterBoot.Proofs.ArtefactUrls
  ────────────────────────────────
  **A URL TELLS WHICH ARTEFACT OF WHICH RELEASE IT IS OF.**

  The base address counts without the slashes at its end, by its `root`.  Behind the
  root stands the version with every plus sign escaped, and behind the last slash the
  artefact.  Escaping is undone from left to right (`unescape_replaceChar`): whatever
  reads like an escaped plus sign is one, unless the version had it already.  So the
  release and the artefact can be read off a URL (`urls_determined`), if the artefact
  has no slash and the version no `%2B`.
-/
import ClusterBoot.ReleaseSources
import Mathlib.Data.List.DropRight

namespace ClusterBoot

/-! ## §1. Replaced characters. -/

namespace Text

variable {c d : Char} {replacement cs : List Char}

theorem replaceChar_cons_self (c : Char) (replacement cs : List Char) :
    replaceChar c replacement (c :: cs) = replacement ++ replaceChar c replacement cs := by
  rw [replaceChar, List.flatMap_cons, if_pos rfl, replaceChar]

theorem replaceChar_cons_of_ne (h : d ≠ c) :
    replaceChar c replacement (d :: cs) = d :: replaceChar c replacement cs := by
  rw [replaceChar, List.flatMap_cons, if_neg h, replaceChar, List.singleton_append]

/-- A character that is replaced by others is gone. -/
theorem notMem_replaceChar (h : c ∉ replacement) : c ∉ replaceChar c replacement cs := by
  intro hmem
  obtain ⟨d, -, hd⟩ := List.mem_flatMap.1 hmem
  split at hd
  next => exact h hd
  next hdc => exact hdc (List.mem_singleton.1 hd).symm

/-- What a replaced text begins with was there before, if it has neither the replaced
character nor the one that every replacement begins with. -/
theorem prefix_of_prefix_replaceChar {first : Char} {ds : List Char} (hc : c ∉ ds)
    (hfirst : first ∉ ds) (h : ds <+: replaceChar c (first :: replacement) cs) : ds <+: cs := by
  induction ds generalizing cs with
  | nil => exact List.nil_prefix
  | cons d ds ih =>
      rw [List.mem_cons, not_or] at hc hfirst
      cases cs with
      | nil => exact absurd (List.prefix_nil.1 h) (List.cons_ne_nil d ds)
      | cons e cs =>
          by_cases he : e = c
          · -- the replacement would have to begin with `d`
            subst he
            rw [replaceChar_cons_self, List.cons_append] at h
            exact absurd (List.cons_prefix_cons.1 h).1.symm hfirst.1
          · rw [replaceChar_cons_of_ne he] at h
            obtain ⟨rfl, hds⟩ := List.cons_prefix_cons.1 h
            exact List.cons_prefix_cons.2 ⟨rfl, ih hc.2 hfirst.2 hds⟩

/-- What is dropped at the end. -/
theorem dropTrailing_eq (c : Char) (cs : List Char) :
    dropTrailing c cs = cs.rdropWhile (· = c) := rfl

end Text

namespace ReleaseSources

/-! ## §2. Escaped plus signs. -/

/-- What stands for a plus sign. -/
def escapedPlus : List Char := ['%', '2', 'B']

/-- A list of characters with a plus sign for each `%2B`, from left to right. -/
def unescape : List Char → List Char
  | '%' :: '2' :: 'B' :: r => '+' :: unescape r
  | c :: r => c :: unescape r
  | [] => []

/-- The text with a plus sign for each `%2B`. -/
def unescaped (part : String) : String :=
  String.ofList (unescape part.toList)

theorem unescape_escapedPlus (cs : List Char) :
    unescape (escapedPlus ++ cs) = '+' :: unescape cs := rfl

theorem unescape_cons {c : Char} {cs : List Char} (h : ¬ escapedPlus <+: c :: cs) :
    unescape (c :: cs) = c :: unescape cs := by
  rw [unescape]
  rintro r rfl rfl
  exact h ⟨r, rfl⟩

/-- **Escaping is undone in every text that has no escape itself.** -/
theorem unescape_replaceChar {cs : List Char} (h : Text.occursIn escapedPlus cs = false) :
    unescape (Text.replaceChar '+' escapedPlus cs) = cs := by
  induction cs with
  | nil => rfl
  | cons c cs ih =>
      rw [Text.occursIn, Bool.or_eq_false_iff] at h
      obtain ⟨hhere, hbehind⟩ := h
      by_cases hc : c = '+'
      · subst hc
        rw [Text.replaceChar_cons_self, unescape_escapedPlus, ih hbehind]
      · have hnone : ¬ escapedPlus <+: c :: Text.replaceChar '+' escapedPlus cs := by
          -- only `%` begins an escape, so the rest of this one was there before
          intro hescape
          obtain ⟨rfl, hrest⟩ := List.cons_prefix_cons.1 hescape
          have hrest := Text.prefix_of_prefix_replaceChar (by decide) (by decide) hrest
          have hescape : escapedPlus <+: '%' :: cs := List.cons_prefix_cons.2 ⟨rfl, hrest⟩
          rw [List.isPrefixOf_iff_prefix.2 hescape] at hhere
          cases hhere
        rw [Text.replaceChar_cons_of_ne hc, unescape_cons hnone, ih hbehind]

theorem plus_notMem_versionPart (version : String) : '+' ∉ versionPart version :=
  Text.notMem_replaceChar (by decide)

/-- The version is its part of a URL, unescaped. -/
theorem unescaped_versionPart {version : String} (h : Text.contains version "%2B" = false) :
    unescaped (String.ofList (versionPart version)) = version := by
  rw [unescaped, String.toList_ofList, versionPart]
  exact (congrArg String.ofList (unescape_replaceChar h)).trans String.ofList_toList

/-! ## §3. Roots. -/

/-- A text of slashes. -/
def slashes (n : Nat) : String :=
  String.ofList (List.replicate n '/')

/-- A base address without the slashes at its end. -/
def root (base : String) : String :=
  String.ofList (Text.dropTrailing '/' base.toList)

/-- What the root of a base address is: its part before the slashes at its end. -/
structure IsRoot (base root : String) : Prop where
  trailing : ∃ n, base = root ++ slashes n
  last : root.toList.getLast? ≠ some '/'

theorem root_append_slashes (base : String) (n : Nat) : root (base ++ slashes n) = root base := by
  have hslashes : ∀ c ∈ (List.replicate n '/').reverse, decide (c = '/') = true := by
    simp
  rw [root, root, slashes, String.toList_append, String.toList_ofList, Text.dropTrailing,
    Text.dropTrailing, List.reverse_append, List.dropWhile_append_of_pos hslashes]

theorem isRoot_root (base : String) : IsRoot base (root base) where
  trailing := by
    have hafter : ∀ c ∈ base.toList.rtakeWhile (· = '/'), c = '/' :=
      fun c hc => by simpa using List.mem_rtakeWhile_imp hc
    refine ⟨(base.toList.rtakeWhile (· = '/')).length, ?_⟩
    rw [← String.toList_inj, slashes, ← List.eq_replicate_iff.2 ⟨rfl, hafter⟩,
      String.toList_append, root, String.toList_ofList, String.toList_ofList,
      Text.dropTrailing_eq, List.rdropWhile_append_rtakeWhile]
  last hlast := by
    rw [root, String.toList_ofList, Text.dropTrailing_eq] at hlast
    obtain ⟨hne, heq⟩ := List.mem_getLast?_eq_getLast hlast
    exact List.rdropWhile_last_not _ _ hne (decide_eq_true heq.symm)

/-- **A base address has one root.** -/
theorem isRoot_iff {base r : String} : IsRoot base r ↔ r = root base := by
  refine ⟨fun h => ?_, fun h => h ▸ isRoot_root base⟩
  obtain ⟨n, rfl⟩ := h.trailing
  have hself : r.toList.rdropWhile (· = '/') = r.toList := by
    refine List.rdropWhile_eq_self_iff.2 fun hne hslash => h.last ?_
    rw [List.getLast?_eq_some_getLast hne, of_decide_eq_true hslash]
  rw [root_append_slashes, root, Text.dropTrailing_eq, hself, String.ofList_toList]

theorem artefactUrlUnder_eq (base version artefact : String) :
    artefactUrlUnder base version artefact
      = root base ++ "/" ++ String.ofList (versionPart version) ++ "/" ++ artefact := by
  rw [← String.toList_inj]
  simp [artefactUrlUnder, root]

/-! ## §4. The last slash. -/

/-- What stands behind the last slash of a URL. -/
def behindLastSlash (url : String) : String :=
  String.ofList (url.toList.rtakeWhile (· ≠ '/'))

/-- What stands before the last slash of a URL. -/
def beforeLastSlash (url : String) : String :=
  String.ofList (url.toList.rdropWhile (· ≠ '/')).dropLast

/-- What stands between a root with its slash and the last slash of a URL. -/
def between (root url : String) : String :=
  String.ofList ((beforeLastSlash url).toList.drop (root ++ "/").length)

section LastSlash

variable {name : String} (h : '/' ∉ name.toList) (before : String)
include h

/-- Read backward, a name without slashes comes first. -/
theorem reverse_cut :
    (before ++ "/" ++ name).toList.reverse = name.toList.reverse ++ '/' :: before.toList.reverse
      ∧ ∀ c ∈ name.toList.reverse, decide (c ≠ '/') = true := by
  constructor
  · simp
  · intro c hc
    exact decide_eq_true fun heq => h (heq ▸ List.mem_reverse.1 hc)

/-- The name behind a slash, if it has none itself, is what stands behind the last slash. -/
theorem behindLastSlash_append : behindLastSlash (before ++ "/" ++ name) = name := by
  obtain ⟨hreverse, hname⟩ := reverse_cut h before
  rw [behindLastSlash, List.rtakeWhile, hreverse, List.takeWhile_append_of_pos hname,
    List.takeWhile_cons_of_neg (by simp), List.append_nil, List.reverse_reverse,
    String.ofList_toList]

theorem beforeLastSlash_append : beforeLastSlash (before ++ "/" ++ name) = before := by
  obtain ⟨hreverse, hname⟩ := reverse_cut h before
  rw [beforeLastSlash, List.rdropWhile, hreverse, List.dropWhile_append_of_pos hname,
    List.dropWhile_cons_of_neg (by simp), List.reverse_cons, List.reverse_reverse,
    List.dropLast_concat, String.ofList_toList]

theorem between_append (root part : String) :
    between root (root ++ "/" ++ part ++ "/" ++ name) = part := by
  rw [between, beforeLastSlash_append h, String.toList_append, ← String.length_toList,
    List.drop_left, String.ofList_toList]

end LastSlash

/-! ## §5. Artefacts and releases. -/

/-- The root of the releases of a distribution. -/
def releasesRoot (sources : ReleaseSources) (d : Distribution) : String :=
  root (sources.releases d)

/-- What the URLs of the artefacts of a distribution say. -/
structure UrlsDetermined (sources : ReleaseSources) (d : Distribution) : Prop where
  /-- The base address has one root. -/
  isRoot : ∀ r, IsRoot (sources.releases d) r ↔ r = sources.releasesRoot d
  /-- Slashes at the end of the base address do not matter. -/
  trailing : ∀ (other : ReleaseSources) (n : Nat),
    other.releases d = sources.releases d ++ slashes n →
      ∀ version artefact,
        other.artefactUrl d version artefact = sources.artefactUrl d version artefact
  /-- Between the root and the artefact stands a part for the version, without plus signs. -/
  plusFree : ∀ version, ∃ part, '+' ∉ part.toList ∧ ∀ artefact,
    sources.artefactUrl d version artefact
      = sources.releasesRoot d ++ "/" ++ part ++ "/" ++ artefact
  /-- The artefact is what stands behind the last slash, -/
  artefact : ∀ version artefact, '/' ∉ artefact.toList →
    behindLastSlash (sources.artefactUrl d version artefact) = artefact
  /-- and the version what stands between the root and the last slash, unescaped. -/
  version : ∀ version artefact, Text.contains version "%2B" = false → '/' ∉ artefact.toList →
    unescaped (between (sources.releasesRoot d) (sources.artefactUrl d version artefact)) = version
  /-- Different artefacts, and those of different releases, have different URLs. -/
  injective : ∀ version artefact version' artefact',
    Text.contains version "%2B" = false → '/' ∉ artefact.toList →
    Text.contains version' "%2B" = false → '/' ∉ artefact'.toList →
      sources.artefactUrl d version artefact = sources.artefactUrl d version' artefact' →
        version = version' ∧ artefact = artefact'

variable (sources : ReleaseSources) (d : Distribution)

theorem artefactUrl_eq (version artefact : String) :
    sources.artefactUrl d version artefact
      = sources.releasesRoot d ++ "/" ++ String.ofList (versionPart version) ++ "/" ++ artefact :=
  artefactUrlUnder_eq _ _ _

theorem behindLastSlash_artefactUrl (version : String) {artefact : String}
    (h : '/' ∉ artefact.toList) :
    behindLastSlash (sources.artefactUrl d version artefact) = artefact := by
  rw [artefactUrl_eq, behindLastSlash_append h]

theorem unescaped_between_artefactUrl {version artefact : String}
    (hversion : Text.contains version "%2B" = false) (h : '/' ∉ artefact.toList) :
    unescaped (between (sources.releasesRoot d) (sources.artefactUrl d version artefact))
      = version := by
  rw [artefactUrl_eq, between_append h, unescaped_versionPart hversion]

/-- **The URLs of artefacts determine the release and the artefact.** -/
theorem urls_determined : UrlsDetermined sources d where
  isRoot _ := isRoot_iff
  trailing other n h version artefact := by
    rw [artefactUrl_eq, artefactUrl_eq, releasesRoot, h, root_append_slashes, releasesRoot]
  plusFree version :=
    ⟨String.ofList (versionPart version), by simpa using plus_notMem_versionPart version,
      artefactUrl_eq sources d version⟩
  artefact version _ h := behindLastSlash_artefactUrl sources d version h
  version _ _ hversion h := unescaped_between_artefactUrl sources d hversion h
  injective version artefact version' artefact' hversion h hversion' h' heq := by
    -- both are read off the one URL
    constructor
    · rw [← unescaped_between_artefactUrl sources d hversion h, heq,
        unescaped_between_artefactUrl sources d hversion' h']
    · rw [← behindLastSlash_artefactUrl sources d version h, heq,
        behindLastSlash_artefactUrl sources d version' h']

/-- The URL of a version with half an escape beside a plus sign, and with a slash. -/
theorem urls_determined_halfEscape :
    let url := default.artefactUrl .rke2 "v1/%2+rke2r1" "sha256sum.txt"
    behindLastSlash url = "sha256sum.txt"
      ∧ unescaped (between (default.releasesRoot .rke2) url) = "v1/%2+rke2r1" :=
  have hdetermined := urls_determined default .rke2
  ⟨hdetermined.artefact _ _ (by decide), hdetermined.version _ _ (by decide) (by decide)⟩

end ReleaseSources

end ClusterBoot
