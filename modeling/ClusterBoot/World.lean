/-
  ClusterBoot.World
  ────────────────────────────────
  **WHAT A COMMAND CHANGES.**

  A command changes files, requests URLs and prints lines.  An `Action` is a
  computation that may do so and may fail; a failed one keeps what it changed
  before.
-/
import ClusterBoot.FileTree

namespace ClusterBoot

/-! ## §1. Worlds. -/

/-- What a command changes. -/
structure World where
  /-- The files. -/
  tree : FileTree
  /-- The URLs that were requested, in order. -/
  requests : List String
  /-- Whether what is behind each of them arrived, in the same order. -/
  arrived : List Bool
  /-- The lines that were printed, in order. -/
  printed : List String
  deriving DecidableEq

/-- A world with files, in which nothing has happened. -/
def World.ofTree (tree : FileTree) : World := ⟨tree, [], [], []⟩

/-! ## §2. Actions. -/

/-- A computation that changes the world and may fail. -/
abbrev Action (ε α : Type) := ExceptT ε (StateM World) α

namespace Action

/-- Run an action in a world. -/
def runIn {ε α : Type} (a : Action ε α) (w : World) : Except ε α × World :=
  Id.run (StateT.run (ExceptT.run a) w)

/-- The action that does what a function on worlds does. -/
def ofFunction {ε α : Type} (f : World → Except ε α × World) : Action ε α :=
  ExceptT.mk (StateT.mk fun w => pure (f w))

/-- Fail, or give a value. -/
def ofExcept {ε α : Type} : Except ε α → Action ε α
  | .ok a => pure a
  | .error e => throw e

/-- The action with its failures put in other words. -/
def mapError {ε ε' α : Type} (f : ε → ε') (a : Action ε α) : Action ε' α :=
  ofFunction fun w =>
    match a.runIn w with
    | (.ok x, w) => (.ok x, w)
    | (.error e, w) => (.error (f e), w)

/-- Print a line. -/
def print {ε : Type} (line : String) : Action ε Unit :=
  ofFunction fun w => (.ok (), { w with printed := w.printed ++ [line] })

/-- Print several lines. -/
def printAll {ε : Type} (lines : List String) : Action ε Unit :=
  ofFunction fun w => (.ok (), { w with printed := w.printed ++ lines })

/-- The files as they are. -/
def tree {ε : Type} : Action ε FileTree :=
  ofFunction fun w => (.ok w.tree, w)

/-- Make a directory and those above it that are missing. -/
def makeDirs {ε : Type} (refused : ε) (path : String) : Action ε Unit :=
  ofFunction fun w =>
    let (ok, tree) := w.tree.makeDirs path
    (if ok then .ok () else .error refused, { w with tree := tree })

/-- Change the files, unless this is refused. -/
def change {ε : Type} (refused : ε) (f : FileTree → Option FileTree) : Action ε Unit :=
  ofFunction fun w =>
    match f w.tree with
    | some tree => (.ok (), { w with tree := tree })
    | none => (.error refused, w)

end Action

end ClusterBoot
