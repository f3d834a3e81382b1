import Mathlib.Data.List.Basic
import ConsoleHarness.Config.Basic

/-! # Putting an image into arguments

Putting a kernel image into arguments is an update of one place, the argument behind the first flag:
what is put there is found there, the last of several updates counts, and nothing else moves.  The
place is made if it is missing, because there is no flag, or none but at the very end.

A flag in the place of the image is an image like any other: it is the *first* flag that counts, and
an update leaves that one where it was.
-/

namespace ConsoleHarness.Emulator

/-! ## The two shapes of arguments -/

theorem withImage_of_notMem {args : List String} (unflagged : imageFlag ∉ args) (image : String) :
    withImage image args = args ++ [imageFlag, image] := by
  induction args with
  | nil => rfl
  | cons arg rest ih =>
    obtain ⟨other, more⟩ := not_or.mp (mt List.mem_cons.mpr unflagged)
    rw [withImage, if_neg (Ne.symm other), ih more, List.cons_append]

theorem withImage_of_flag {front : List String} (unflagged : imageFlag ∉ front) (image : String)
    (rest : List String) :
    withImage image (front ++ imageFlag :: rest) = front ++ imageFlag :: image :: rest.tail := by
  induction front with
  | nil => simp [withImage]
  | cons arg front ih =>
    obtain ⟨other, more⟩ := not_or.mp (mt List.mem_cons.mpr unflagged)
    rw [List.cons_append, withImage, if_neg (Ne.symm other), ih more, List.cons_append]

theorem idxOf_flag {front : List String} (unflagged : imageFlag ∉ front) (rest : List String) :
    (front ++ imageFlag :: rest).idxOf imageFlag = front.length := by
  rw [List.idxOf_append_of_notMem unflagged, List.idxOf_cons_self, Nat.add_zero]

/-- With an image put in, arguments have a first flag with that image behind it. -/
theorem exists_withImage (image : String) (args : List String) :
    ∃ front rest, imageFlag ∉ front ∧ args.idxOf imageFlag = front.length ∧
      withImage image args = front ++ imageFlag :: image :: rest ∧
      (args = front ∧ rest = [] ∨ args = front ++ [imageFlag] ∧ rest = [] ∨
        ∃ old, args = front ++ imageFlag :: old :: rest) := by
  by_cases flagged : imageFlag ∈ args
  · obtain ⟨front, rest, rfl, unflagged⟩ := List.eq_append_cons_of_mem flagged
    refine ⟨front, rest.tail, unflagged, idxOf_flag unflagged rest,
      withImage_of_flag unflagged image rest, .inr ?_⟩
    cases rest with
    | nil => exact .inl ⟨rfl, rfl⟩
    | cons old rest => exact .inr ⟨old, rfl⟩
  · exact ⟨args, [], flagged, List.idxOf_eq_length flagged, withImage_of_notMem flagged image,
      .inl ⟨rfl, rfl⟩⟩

/-! ## The laws of an update -/

/-- The last image put in counts. -/
theorem withImage_withImage (x y : String) (args : List String) :
    withImage y (withImage x args) = withImage y args := by
  by_cases flagged : imageFlag ∈ args
  · obtain ⟨front, rest, rfl, unflagged⟩ := List.eq_append_cons_of_mem flagged
    rw [withImage_of_flag unflagged, withImage_of_flag unflagged, withImage_of_flag unflagged,
      List.tail_cons]
  · rw [withImage_of_notMem flagged, withImage_of_notMem flagged, withImage_of_flag flagged,
      List.tail_cons]

theorem withImage_argsFor (x y : String) : withImage y (argsFor x) = argsFor y := by
  simp [argsFor, withImage, imageFlag]

/-- Nothing moves but the argument behind the first flag. -/
theorem getElem?_withImage_of_ne {args : List String} {i : Nat} (inside : i < args.length)
    (other : i ≠ args.idxOf imageFlag + 1) (image : String) :
    (withImage image args)[i]? = args[i]? := by
  obtain ⟨front, rest, -, first, put, shape⟩ := exists_withImage image args
  rw [put]
  rw [first] at other
  obtain ⟨rfl, -⟩ | ⟨rfl, -⟩ | ⟨old, rfl⟩ := shape
  · exact List.getElem?_append_left inside
  · -- A flag at the very end is the last argument that there was.
    rw [List.append_cons front imageFlag]
    exact List.getElem?_append_left inside
  · rcases Nat.lt_trichotomy i (front.length + 1) with before | same | behind
    · have kept (tail : List String) :
          (front ++ imageFlag :: tail)[i]? = (front ++ [imageFlag])[i]? := by
        rw [List.append_cons]
        exact List.getElem?_append_left (by simpa using before)
      exact (kept (image :: rest)).trans (kept (old :: rest)).symm
    · contradiction
    · obtain ⟨j, rfl⟩ : ∃ j, i = front.length + (j + 2) := ⟨i - front.length - 2, by omega⟩
      simp only [List.getElem?_append_right (Nat.le_add_right _ _), Nat.add_sub_cancel_left,
        List.getElem?_cons_succ]

/-- Arguments grow only as far as the place of the image asks for. -/
theorem length_withImage (image : String) (args : List String) :
    (withImage image args).length = max args.length (args.idxOf imageFlag + 2) := by
  obtain ⟨front, rest, -, first, put, shape⟩ := exists_withImage image args
  rw [put, first]
  obtain ⟨rfl, rfl⟩ | ⟨rfl, rfl⟩ | ⟨old, rfl⟩ := shape <;>
    simp only [List.length_append, List.length_cons, List.length_nil] <;> omega

/-- Putting an image into arguments is a lawful update of the argument behind their first flag, which
is made if it is missing; arguments made for one image and updated are those made for the other. -/
theorem image_update_is_lawful (args : List String) (x y : String) :
    ((withImage x args).idxOf imageFlag = args.idxOf imageFlag ∧
      (withImage x args)[args.idxOf imageFlag]? = some imageFlag ∧
      (withImage x args)[args.idxOf imageFlag + 1]? = some x) ∧
    withImage y (withImage x args) = withImage y args ∧
    withImage x (withImage x args) = withImage x args ∧
    (∀ i < args.length, i ≠ args.idxOf imageFlag + 1 → (withImage x args)[i]? = args[i]?) ∧
    (withImage x args).length = max args.length (args.idxOf imageFlag + 2) ∧
    (imageFlag ∉ args → withImage x args = args ++ [imageFlag, x]) ∧
    (∀ front, imageFlag ∉ front → args = front ++ [imageFlag] → withImage x args = args ++ [x]) ∧
    withImage y (argsFor x) = argsFor y := by
  obtain ⟨front, rest, unflagged, first, put, -⟩ := exists_withImage x args
  refine ⟨⟨?_, ?_, ?_⟩, withImage_withImage x y args, withImage_withImage x x args,
    fun i inside other => getElem?_withImage_of_ne inside other x, length_withImage x args,
    fun absent => withImage_of_notMem absent x, ?_, withImage_argsFor x y⟩
  · rw [put, first]
    exact idxOf_flag unflagged (x :: rest)
  · rw [put, first]
    simp
  · rw [put, first]
    simp
  · rintro front unflagged rfl
    rw [withImage_of_flag unflagged, List.append_assoc]
    rfl

end ConsoleHarness.Emulator
