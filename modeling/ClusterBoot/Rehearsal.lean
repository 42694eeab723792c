/-
  ClusterBoot.Rehearsal
  ────────────────────────────────
  **DOWNLOADING NOTHING.**

  A rehearsal stores the URL of each file instead of the file.  It can be
  told to fail at the URLs that contain a text.
-/
import ClusterBoot.Download

namespace ClusterBoot

/-- Whether a rehearsal fails at a URL. -/
def rehearsalFails (failOn : Option String) (url : String) : Bool :=
  match failOn with
  | some part => Text.contains url part
  | none => false

/-- The downloader that stores URLs. -/
def Downloader.rehearsal (failOn : Option String) : Downloader where
  fetch _ url path tree :=
    if rehearsalFails failOn url then (.error (.status url 404), tree)
    else
      match tree.write? path url.toUTF8 with
      | some tree => (.ok (), tree)
      | none => (.error (.write path), tree)

end ClusterBoot
