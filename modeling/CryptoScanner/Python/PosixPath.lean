import Mathlib.Data.List.DropRight
import CryptoScanner.Library.Join

/-!
# POSIX paths

What `pathlib` makes of the text of a path: its root, and its parts without empty ones and dots.
-/

namespace CryptoScanner.Python

open Library

/-- A path begins with no slash, with one (or with three or more), or with exactly two. -/
inductive PathRoot where
  | relative
  | slash
  | twoSlashes
  deriving DecidableEq, Repr

def PathRoot.text : PathRoot → List Char
  | .relative => []
  | .slash => ['/']
  | .twoSlashes => ['/', '/']

/-- `posixpath.splitroot` -/
def pathRoot : List Char → PathRoot
  | '/' :: '/' :: '/' :: _ => .slash
  | '/' :: '/' :: _ => .twoSlashes
  | '/' :: _ => .slash
  | _ => .relative

def IsPathPart (part : List Char) : Prop := part ≠ [] ∧ part ≠ ['.'] ∧ '/' ∉ part

structure PosixPath where
  root : PathRoot
  parts : List (List Char)
  isPart : ∀ part ∈ parts, IsPathPart part
  deriving DecidableEq

def pathParts (text : List Char) : List (List Char) :=
  (text.splitOn '/').filter fun part => part ≠ [] ∧ part ≠ ['.']

theorem isPathPart_of_mem {text part : List Char} (h : part ∈ pathParts text) :
    IsPathPart part := by
  obtain ⟨hmem, hkept⟩ := List.mem_filter.mp h
  obtain ⟨hne, hdot⟩ := of_decide_eq_true hkept
  exact ⟨hne, hdot, not_mem_of_mem_splitOn hmem⟩

namespace PosixPath

def parse (text : List Char) : PosixPath where
  root := pathRoot text
  parts := pathParts text
  isPart _ := isPathPart_of_mem

def str (path : PosixPath) : List Char :=
  if path.root = .relative ∧ path.parts = [] then ['.']
  else path.root.text ++ ['/'].intercalate path.parts

def name (path : PosixPath) : List Char := path.parts.getLast?.getD []

def suffix (path : PosixPath) : List Char :=
  let extension := path.name.rtakeWhile (· ≠ '.')
  if '.' ∈ path.name.tail ∧ extension ≠ [] then '.' :: extension else []

def parent (path : PosixPath) : PosixPath where
  root := path.root
  parts := path.parts.dropLast
  isPart part hpart := path.isPart part (List.dropLast_subset _ hpart)

/-! ## Reading a path back -/

theorem pathParts_cons_slash (text : List Char) : pathParts ('/' :: text) = pathParts text := by
  unfold pathParts
  rw [List.splitOn_cons_eq_if_modifyHead, if_pos (by decide)]
  rfl

theorem pathParts_root (root : PathRoot) (text : List Char) :
    pathParts (root.text ++ text) = pathParts text := by
  cases root with
  | relative => rfl
  | slash => exact pathParts_cons_slash text
  | twoSlashes =>
      show pathParts ('/' :: '/' :: text) = _
      rw [pathParts_cons_slash, pathParts_cons_slash]

theorem pathParts_intercalate {parts : List (List Char)} (h : ∀ part ∈ parts, IsPathPart part) :
    pathParts (['/'].intercalate parts) = parts := by
  by_cases hempty : parts = []
  · rw [hempty]
    decide
  · unfold pathParts
    rw [List.splitOn_intercalate '/' (fun part hpart => (h part hpart).2.2) hempty]
    apply List.filter_eq_self.mpr
    intro part hpart
    exact decide_eq_true ⟨(h part hpart).1, (h part hpart).2.1⟩

theorem parts_parse_str (path : PosixPath) : (parse path.str).parts = path.parts := by
  show pathParts path.str = path.parts
  unfold str
  split
  · rename_i hnothing
    rw [hnothing.2]
    decide
  · rw [pathParts_root, pathParts_intercalate path.isPart]

/-- A text that begins with no slash keeps the slashes in front of it apart. -/
theorem pathRoot_text {text : List Char} (h : text.head? ≠ some '/') (root : PathRoot) :
    pathRoot (root.text ++ text) = root := by
  cases text with
  | nil => cases root <;> rfl
  | cons c text =>
      have hc : c ≠ '/' := fun heq => h (congrArg some heq)
      cases root with
      | relative => simp [PathRoot.text, pathRoot, hc]
      | slash => simp [PathRoot.text, pathRoot, hc]
      | twoSlashes => simp [PathRoot.text, pathRoot, hc]

theorem root_parse_str (path : PosixPath) : (parse path.str).root = path.root := by
  show pathRoot path.str = path.root
  unfold str
  split
  · rename_i hnothing
    rw [hnothing.1]
    rfl
  · apply pathRoot_text
    -- The joined parts begin as the first part does.
    intro hslash
    cases hparts : path.parts with
    | nil =>
        rw [hparts] at hslash
        cases hslash
    | cons part parts =>
        have hpart := path.isPart part (by rw [hparts]; exact List.mem_cons_self)
        obtain ⟨c, rest, hcons⟩ := List.exists_cons_of_ne_nil hpart.1
        rw [hparts, hcons] at hslash
        have hc : c = '/' := by
          cases parts <;> exact Option.some.inj hslash
        apply hpart.2.2
        rw [hcons, hc]
        exact List.mem_cons_self

/-- `Path(str(path)) == path` -/
theorem parse_str (path : PosixPath) : parse path.str = path := by
  have hroot := root_parse_str path
  have hparts := parts_parse_str path
  cases path
  exact (mk.injEq _ _ _ _ _ _).mpr ⟨hroot, hparts⟩

theorem str_injective : Function.Injective str := Function.LeftInverse.injective parse_str

theorem name_parse_str (path : PosixPath) : (parse path.str).name = path.name := by
  rw [parse_str]

theorem name_parse_name (path : PosixPath) : (parse path.name).name = path.name := by
  unfold name
  cases hlast : path.parts.getLast? with
  | none => rfl
  | some part =>
      have hpart := path.isPart part (List.mem_of_getLast? hlast)
      have hparts : pathParts part = [part] := by
        have hsingle := @pathParts_intercalate [part]
        rw [List.intercalate_singleton] at hsingle
        apply hsingle
        intro other hother
        rw [List.mem_singleton.mp hother]
        exact hpart
      show ((pathParts part).getLast?).getD [] = part
      rw [hparts]
      rfl

end PosixPath

end CryptoScanner.Python
