/-
  ClusterBoot.Http
  ────────────────────────────────
  **DOWNLOADING FROM THE WEB.**

  A request is answered with a status and a body, or not at all.  Answers
  that point to another address are followed, ten times at most and only to
  addresses on the web.  A body is
  received in a file beside its destination and takes its place only once it
  is complete, so an incomplete body never shows at the destination.
-/
import ClusterBoot.Download
import ClusterBoot.Url

namespace ClusterBoot.Http

/-! ## §1. Requests and answers. -/

/-- The answer to a request. -/
structure Response where
  /-- The status. -/
  status : Nat
  /-- What arrives of the body. -/
  body : ByteArray
  /-- Whether that is all of it. -/
  complete : Bool
  /-- The address that the answer points to, if it does. -/
  location : Option String

/-- What the web answers to a request; nothing if the host does not. -/
abbrev Web := Url → Option Response

/-- How the command names itself in requests. -/
def userAgent : String := "edge-builder/0.1.0"

/-- How often an answer that points to another address is followed. -/
def maxRedirects : Nat := 10

/-- Whether a status says that the answer is the file. -/
def isSuccess (status : Nat) : Bool :=
  200 ≤ status && status < 300

/-- Whether a status says that the file is at another address. -/
def isRedirect (status : Nat) : Bool :=
  [301, 302, 303, 307, 308].contains status

/-- What an answer amounts to.  A status has three digits.  The answers before
the final one are passed over, and here nothing comes after them; only `101`
is final among them.  An answer that says it has no content has no body. -/
def Response.final? (r : Response) : Option Response :=
  if 1000 ≤ r.status || (r.status < 200 && r.status ≠ 101) then none
  else if r.status = 204 then some { r with body := .empty, complete := true }
  else some r

/-- The address that an answer points to. -/
def Response.target? (r : Response) (base : Url) : Option Url :=
  if isRedirect r.status then r.location.bind (Url.resolve? base) else none

/-! ## §2. Exchanges. -/

/-- The addresses that were requested, and the last answer. -/
structure Exchange where
  /-- The addresses, in order. -/
  requested : List Url
  /-- The answer, if there was one. -/
  response : Option Response

/-- Request an address, and follow the answer to others so many times. -/
def exchange (web : Web) : (redirects : Nat) → Url → Exchange
  | n, url =>
      match (web url).bind Response.final? with
      | none => ⟨[url], none⟩
      | some response =>
          match response.target? url, n with
          | none, _ => ⟨[url], some response⟩
          | some _, 0 => ⟨[url], none⟩
          | some next, n + 1 =>
              if next.isWeb then
                let rest := exchange web n next
                ⟨url :: rest.requested, rest.response⟩
              else ⟨[url], none⟩

/-- Request what a text addresses. -/
def request (web : Web) (url : String) : Exchange :=
  match Url.parse? url with
  | some u => if u.isWeb then exchange web maxRedirects u else ⟨[], none⟩
  | none => ⟨[], none⟩

/-! ## §3. Downloads. -/

/-- The files without an incomplete download. -/
def discard (part : String) (tree : FileTree) : FileTree :=
  (tree.removeFile? part).getD tree

/-- Store the body of an answer. -/
def store (response : Response) (path : String) (tree : FileTree) :
    Except DownloadFailure Unit × FileTree :=
  let part := Path.partOf path
  match tree.write? part response.body with
  | none => (.error (.write path), discard part tree)
  | some received =>
      match if response.complete then received.rename? part path else none with
      | some stored => (.ok (), stored)
      | none => (.error (.write path), discard part received)

/-- Download what is behind a URL. -/
def download (web : Web) (url path : String) (tree : FileTree) :
    Except DownloadFailure Unit × FileTree :=
  match (request web url).response with
  | none => (.error (.request url), tree)
  | some response =>
      if isSuccess response.status then store response path tree
      else (.error (.status url response.status), tree)

/-- The downloader that requests files from the web. -/
def downloader (web : Web) : Downloader where
  fetch _ url path tree := download web url path tree

end ClusterBoot.Http
