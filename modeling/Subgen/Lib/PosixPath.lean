import Subgen.Lib.Json

/-!
# Paths

What `PurePosixPath` makes of a text, and the paths that it leaves as they are (`Canonical`).
`normpath` also resolves the components `..`.

A text is cut at its slashes; empty components and those that are a single dot are dropped, and the
rest is joined again behind the root. Two slashes at the beginning are a root of their own, three and more are
one. The lemmas say what the components of a text are, and of two texts that stand behind each other, so
that a path with a known beginning can be taken apart (`splitOn_of_canonical_append`).
-/

namespace Subgen

namespace PosixPath

/-- The directory itself. -/
def dot : Text := text "."

/-- Its parent. -/
def dotdot : Text := text ".."

/-- The slashes that a path begins with; two of them are a root of their own. -/
def root (t : Text) : Text :=
  if [47, 47] <+: t ∧ ¬ [47, 47, 47] <+: t then [47, 47]
  else if [47] <+: t then [47]
  else []

/-- The components behind the root. -/
def parts (t : Text) : List Text := (t.splitOn 47).filter fun s => s ≠ [] ∧ s ≠ dot

/-- A path of components behind a root. -/
def join (root : Text) (parts : List Text) : Text := root ++ [47].intercalate parts

/-- `str(PurePosixPath(t))`. -/
def str (t : Text) : Text := if root t = [] ∧ parts t = [] then dot else join (root t) (parts t)

/-- `PurePosixPath(t).is_absolute()`. -/
def isAbsolute (t : Text) : Bool := root t ≠ []

/-- One component of a path that is normalized: `..` takes the last component away, if there is one
    and it is not `..` itself. -/
def normStep (absolute : Bool) (comps : List Text) (comp : Text) : List Text :=
  if comp ≠ dotdot ∨ (!absolute ∧ comps = []) ∨ comps.getLast? = some dotdot then comps ++ [comp]
  else comps.dropLast

/-- `posixpath.normpath(t)`. -/
def normpath (t : Text) : Text :=
  let normalized := join (root t) ((parts t).foldl (normStep (isAbsolute t)) [])
  if normalized = [] then dot else normalized

example : normpath (text "/media/./tv//../film/a.mkv") = text "/media/film/a.mkv" := by decide

/-- A path that is written as `PurePosixPath` would write it. -/
def Canonical (t : Text) : Prop := str t = t

instance (t : Text) : Decidable (Canonical t) := inferInstanceAs (Decidable (str t = t))

theorem not_mem_of_mem_splitOn {t s : Text} (hs : s ∈ t.splitOn 47) : 47 ∉ s := by
  induction t generalizing s with
  | nil =>
    rw [List.splitOn_nil, List.mem_singleton] at hs
    simp [hs]
  | cons c t ih =>
    rw [List.splitOn_cons_eq_if_modifyHead] at hs
    split at hs
    · rcases List.mem_cons.1 hs with rfl | hs
      · simp
      · exact ih hs
    · next hc =>
      obtain ⟨u, us, hsplit⟩ := List.exists_cons_of_ne_nil (List.splitOn_ne_nil 47 t)
      rw [hsplit, List.modifyHead_cons] at hs
      rw [hsplit] at ih
      rcases List.mem_cons.1 hs with rfl | hs
      · have hu := ih (s := u) List.mem_cons_self
        have hne : ¬ 47 = c := fun h => hc (by simp [h])
        simp [hu, hne]
      · exact ih (List.mem_cons_of_mem _ hs)

theorem mem_parts {t s : Text} : s ∈ parts t ↔ s ∈ t.splitOn 47 ∧ s ≠ [] ∧ s ≠ dot := by
  simp [parts]

theorem parts_slash (t : Text) : parts (47 :: t) = parts t := by
  rw [parts, List.splitOn_cons_eq_if_modifyHead, if_pos (by simp), List.filter_cons_of_neg (by simp), parts]

theorem parts_append {t u : Text} (ht : 47 ∉ t) (hne : t ≠ [] ∧ t ≠ dot) :
    parts (t ++ 47 :: u) = t :: parts u := by
  rw [parts, List.splitOn_append_cons_self_of_not_mem ht, List.filter_cons_of_pos (by simpa using hne), parts]

/-- A path that is left as it is has nothing between its slashes that is dropped. -/
theorem splitOn_of_canonical {t : Text} (h : Canonical (47 :: t)) (hroot : root (47 :: t) = [47])
    (hne : t ≠ []) : t.splitOn 47 = parts t := by
  have hjoin : [47].intercalate (parts t) = t := by
    rw [Canonical, str, if_neg (by simp [hroot]), hroot, join, parts_slash] at h
    exact (List.cons.inj h).2
  have hparts : parts t ≠ [] := by
    intro hnil
    rw [hnil] at hjoin
    exact hne hjoin.symm
  conv_lhs => rw [← hjoin]
  exact List.splitOn_intercalate 47 (fun s hs => not_mem_of_mem_splitOn (mem_parts.1 hs).1) hparts

/-- The rest of such a path behind its first component. -/
theorem splitOn_of_canonical_append {t u : Text} (h : Canonical (47 :: (t ++ 47 :: u)))
    (ht : 47 ∉ t) (hne : t ≠ [] ∧ t ≠ dot) : u.splitOn 47 = parts u := by
  have hroot : root (47 :: (t ++ 47 :: u)) = [47] := by
    obtain ⟨c, t, rfl⟩ := List.exists_cons_of_ne_nil hne.1
    have hc : 47 ≠ c := fun heq => ht (by simp [heq])
    simp [root, hc]
  have hsplit := splitOn_of_canonical h hroot (by simp)
  rw [List.splitOn_append_cons_self_of_not_mem ht, parts_append ht hne] at hsplit
  exact (List.cons.inj hsplit).2

/-- It is no root. -/
theorem root_eq_nil {u : Text} (h : u.splitOn 47 = parts u) : root u = [] := by
  have hhead : ¬ [47] <+: u := by
    rintro ⟨v, rfl⟩
    have hmem : [] ∈ parts (47 :: v) := by
      rw [← List.singleton_append, ← h, List.singleton_append, List.splitOn_cons_eq_if_modifyHead,
        if_pos (by simp)]
      exact List.mem_cons_self
    exact (mem_parts.1 hmem).2.1 rfl
  have htwo : ¬ [47, 47] <+: u := fun hpre => hhead ((List.prefix_append [47] [47]).trans hpre)
  rw [root, if_neg (by simp [htwo]), if_neg hhead]

end PosixPath

end Subgen
