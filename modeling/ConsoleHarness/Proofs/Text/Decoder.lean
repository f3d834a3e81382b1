import Mathlib.Data.List.TakeWhile
import ConsoleHarness.Proofs.Text.Utf8

/-! # A byte stream read chunk by chunk

A byte sequence may be cut wherever the bytes in front do not end in a broken character that the
next byte goes on with: then the two parts are decoded one by one (`decode_append`).  The decoder
cuts nowhere else, so what it has given, together with what the bytes it holds stand for in front
of the bytes to come, is what the whole stream stands for (`Decoder.feed_spec`).
-/

namespace ConsoleHarness.Text

/-! ## Where a character can be cut -/

theorem isContinuation_iff {b : UInt8} : isContinuation b = true ↔ IsTail b := by
  simp [isContinuation, IsTail, UInt8.le_iff_toNat_le, UInt8.lt_iff_toNat_lt]

theorem announced_eq (b : UInt8) :
    announced b =
      if 0xC0 ≤ b.toNat ∧ b.toNat < 0xE0 then 2
      else if 0xE0 ≤ b.toNat ∧ b.toNat < 0xF0 then 3
      else if 0xF0 ≤ b.toNat ∧ b.toNat < 0xF8 then 4
      else 0 := by
  simp [announced, UInt8.le_iff_toNat_le, UInt8.lt_iff_toNat_lt]

/-- A character begins with a byte that is no continuation and tells how many of these follow. -/
theorem Form.shape {bytes : List UInt8} {n : Nat} (form : Form bytes n) :
    ∃ lead tail, bytes = lead :: tail ∧ ¬ isContinuation lead ∧
      (∀ b ∈ tail, isContinuation b) ∧ (tail ≠ [] → tail.length + 1 = announced lead) := by
  simp only [isContinuation_iff, announced_eq]
  cases form with
  | @one a _ low number =>
    exact ⟨a, [], rfl, fun tail => by unfold IsTail at tail; omega, by simp, by simp⟩
  | @two a b _ lead second number =>
    refine ⟨a, [b], rfl, fun tail => by unfold IsTail at tail; omega, by simp [second], fun _ => ?_⟩
    rw [if_pos (by omega)]
    rfl
  | @three a b c _ lead second third shortest unpaired number =>
    refine ⟨a, [b, c], rfl, fun tail => by unfold IsTail at tail; omega, by simp [second, third],
      fun _ => ?_⟩
    rw [if_neg (by omega), if_pos (by omega)]
    rfl
  | @four a b c d _ lead second third fourth shortest greatest number =>
    refine ⟨a, [b, c, d], rfl, fun tail => by unfold IsTail at tail; omega,
      by simp [second, third, fourth], fun _ => ?_⟩
    rw [if_neg (by omega), if_neg (by omega), if_pos (by omega)]
    rfl

/-- What opens a character begins as one, and is not longer than its first byte announces. -/
theorem Opens.shape {lead : UInt8} {tail : List UInt8} (opens : Opens (lead :: tail)) :
    ¬ isContinuation lead ∧ (∀ b ∈ tail, isContinuation b) ∧
      (tail ≠ [] → tail.length + 1 ≤ announced lead) := by
  obtain ⟨c, start⟩ := opens
  obtain ⟨first, conts, whole, foreign, tails, size⟩ := (form_encode c).shape
  rw [whole, List.cons_prefix_cons] at start
  obtain ⟨rfl, start⟩ := start
  refine ⟨foreign, fun b among => tails b (start.subset among), fun filled => ?_⟩
  rw [← size (fun none => filled (List.prefix_nil.mp (none ▸ start)))]
  exact Nat.succ_le_succ start.length_le

/-- No end of the bytes in front is gone on with by the first byte behind. -/
def Apart (front behind : List UInt8) : Prop :=
  ∀ part b, part <:+ front → part ≠ [] → behind.head? = some b → ¬ Opens (part ++ [b])

theorem Apart.of_suffix {front last behind : List UInt8} (apart : Apart front behind)
    (suffix : last <:+ front) : Apart last behind :=
  fun part b among => apart part b (among.trans suffix)

theorem Decodes.append {front behind : List UInt8} {text more : List Char}
    (first : Decodes front text) (second : Decodes behind more) (apart : Apart front behind) :
    Decodes (front ++ behind) (text ++ more) := by
  induction first with
  | nil => exact second
  | char c stands ih =>
    rw [List.append_assoc]
    exact .char c (ih (apart.of_suffix (List.suffix_append ..)))
  | @truncated part rest _ broken stands ih =>
    rw [List.append_assoc]
    refine .truncated ⟨broken.filled, broken.incomplete, fun b next => ?_⟩
      (ih (apart.of_suffix (List.suffix_append ..)))
    -- The piece may end at the cut, where the byte behind it must not go on with it.
    cases rest with
    | nil => exact apart part b (by simp) broken.filled next
    | cons => exact broken.maximal b next
  | stray foreign stands ih => exact .stray foreign (ih (apart.of_suffix (List.suffix_cons ..)))

/-- Parts that are apart are decoded one by one. -/
theorem decode_append {front behind : List UInt8} (apart : Apart front behind) :
    decode (front ++ behind) = decode front ++ decode behind :=
  ((decodes_iff.mpr rfl).append (decodes_iff.mpr rfl) apart).decode_eq

/-- A byte that is no continuation is apart from whatever stands in front of it. -/
theorem apart_of_head {front behind : List UInt8}
    (fresh : ∀ b, behind.head? = some b → ¬ isContinuation b) : Apart front behind := by
  intro part b _ filled next opens
  cases part with
  | nil => exact filled rfl
  | cons lead tail => exact fresh b next (opens.shape.2.1 b (by simp))

/-- Continuations alone are apart from whatever stands behind them. -/
theorem apart_of_tails {front behind : List UInt8} (tails : ∀ b ∈ front, isContinuation b) :
    Apart front behind := by
  intro part b suffix filled _ opens
  cases part with
  | nil => exact filled rfl
  | cons lead tail => exact opens.shape.1 (tails lead (suffix.subset (by simp)))

/-- A lead byte with all that it announces is apart from whatever stands behind it. -/
theorem apart_of_full {start tail behind : List UInt8} {lead : UInt8}
    (foreign : ¬ isContinuation lead) (tails : ∀ b ∈ tail, isContinuation b)
    (full : announced lead ≤ tail.length + 1) : Apart (start ++ lead :: tail) behind := by
  intro part b suffix filled next opens
  have longest := opens
  -- A piece that ends there is among the continuations, is the character, or reaches beyond it.
  obtain inner | ⟨more, rfl⟩ := List.suffix_or_suffix_of_suffix suffix (List.suffix_append ..)
  · obtain rfl | inner := List.suffix_cons_iff.mp inner
    · have size := opens.shape.2.2 (by simp)
      simp at size
      omega
    · exact apart_of_tails tails part b inner filled next opens
  · cases more with
    | nil =>
      have size := opens.shape.2.2 (by simp)
      simp at size
      omega
    | cons first more => exact foreign (opens.shape.2.1 lead (by simp))

/-! ## What a chunk holds back -/

/-- The bytes that a decoder holds: a lead byte with less behind it than it announces. -/
inductive Held : List UInt8 → Prop
  | none : Held []
  | some {lead : UInt8} {tail : List UInt8} (tails : ∀ b ∈ tail, isContinuation b)
      (short : tail.length + 1 < announced lead) : Held (lead :: tail)

theorem not_isContinuation_of_announced {b : UInt8} (lead : 0 < announced b) :
    ¬ isContinuation b := by
  rw [isContinuation_iff, IsTail]
  rw [announced_eq] at lead
  split at lead
  · omega
  · split at lead
    · omega
    · split at lead <;> omega

theorem heldBack_of_tails {chunk : List UInt8} (tails : ∀ b ∈ chunk, isContinuation b) :
    heldBack chunk = 0 := by
  have all : chunk.reverse.takeWhile isContinuation = chunk.reverse :=
    List.takeWhile_eq_self_iff.mpr (by simpa using tails)
  simp only [heldBack, all, List.drop_length]

theorem heldBack_append {start tail : List UInt8} {lead : UInt8} (foreign : ¬ isContinuation lead)
    (tails : ∀ b ∈ tail, isContinuation b) :
    heldBack (start ++ lead :: tail) =
      if tail.length + 1 < announced lead then tail.length + 1 else 0 := by
  have backwards : (start ++ lead :: tail).reverse = tail.reverse ++ lead :: start.reverse := by
    simp
  have ending :
      (tail.reverse ++ lead :: start.reverse).takeWhile isContinuation = tail.reverse := by
    rw [List.takeWhile_append_of_pos (by simpa using tails), List.takeWhile_cons_of_neg foreign,
      List.append_nil]
  have front : (tail.reverse ++ lead :: start.reverse).drop tail.length = lead :: start.reverse :=
    List.drop_left' List.length_reverse
  simp only [heldBack, backwards, ending, List.length_reverse, front]

/-- A chunk ends in continuations, with a byte in front of them that is none unless they are all
that there is. -/
theorem exists_ending (chunk : List UInt8) :
    (∀ b ∈ chunk, isContinuation b) ∨
      ∃ start lead tail, chunk = start ++ lead :: tail ∧ ¬ isContinuation lead ∧
        ∀ b ∈ tail, isContinuation b := by
  induction chunk with
  | nil => exact .inl (by simp)
  | cons b rest ih =>
    obtain tails | ⟨start, lead, tail, rfl, foreign, tails⟩ := ih
    · by_cases cont : isContinuation b
      · exact .inl (by simpa [cont] using tails)
      · exact .inr ⟨[], b, rest, rfl, cont, tails⟩
    · exact .inr ⟨b :: start, lead, tail, rfl, foreign, tails⟩

/-- What is cut off at the end of a chunk is a character that is still incomplete, and is decoded
apart from what stands in front of it. -/
theorem splitHeld_spec (chunk : List UInt8) :
    (splitHeld chunk).1 ++ (splitHeld chunk).2 = chunk ∧ Held (splitHeld chunk).2 ∧
      ∀ behind, Apart (splitHeld chunk).1 ((splitHeld chunk).2 ++ behind) := by
  refine ⟨List.take_append_drop .., ?_⟩
  obtain tails | ⟨start, lead, tail, rfl, foreign, tails⟩ := exists_ending chunk
  · rw [splitHeld, heldBack_of_tails tails, Nat.sub_zero, List.take_length, List.drop_length]
    exact ⟨.none, fun behind => apart_of_tails tails⟩
  · rw [splitHeld, heldBack_append foreign tails]
    split
    case isTrue short =>
      have cut : (start ++ lead :: tail).length - (tail.length + 1) = start.length := by simp
      rw [cut, List.take_left, List.drop_left]
      exact ⟨.some tails short, fun behind => apart_of_head (by simpa using foreign)⟩
    case isFalse full =>
      rw [Nat.sub_zero, List.take_length, List.drop_length]
      exact ⟨.none, fun behind => apart_of_full foreign tails (by omega)⟩

/-- The continuations at the beginning of a chunk, up to a number of them. -/
theorem exists_beginning (limit : Nat) (chunk : List UInt8) :
    ∃ found rest, (chunk.take limit).takeWhile isContinuation = found ∧ chunk = found ++ rest ∧
      (∀ b ∈ found, isContinuation b) ∧ found.length ≤ limit ∧
      (found.length < limit → ∀ b, rest.head? = some b → ¬ isContinuation b) := by
  induction chunk generalizing limit with
  | nil => exact ⟨[], [], by simp, rfl, by simp, by simp, by simp⟩
  | cons b chunk ih =>
    cases limit with
    | zero => exact ⟨[], b :: chunk, rfl, rfl, by simp, by simp, by simp⟩
    | succ limit =>
      by_cases cont : isContinuation b
      · obtain ⟨found, rest, beginning, rfl, tails, size, last⟩ := ih limit
        refine ⟨b :: found, rest, ?_, rfl, by simpa [cont] using tails, by simpa using size,
          by simpa using last⟩
        rw [List.take_succ_cons, List.takeWhile_cons_of_pos cont, beginning]
      · refine ⟨[], b :: chunk, ?_, rfl, by simp, by simp, by simpa using cont⟩
        rw [List.take_succ_cons, List.takeWhile_cons_of_neg cont]

/-! ## Reading chunk by chunk -/

namespace Decoder

/-- What a decoder gives for a chunk that completes what it holds: the completed character, and
what the rest of the chunk would give to a decoder that holds nothing. -/
theorem decode_completed {front rest : List UInt8} (apart : ∀ behind, Apart front (rest ++ behind))
    (behind : List UInt8) :
    decode (front ++ rest ++ behind) =
      decode front ++ decode (splitHeld rest).1 ++ decode ((splitHeld rest).2 ++ behind) := by
  obtain ⟨whole, -, cut⟩ := splitHeld_spec rest
  rw [List.append_assoc, decode_append (apart behind), List.append_assoc,
    ← decode_append (cut behind), ← List.append_assoc (splitHeld rest).1, whole]

/-- Whatever is to come, what a chunk gives is decoded apart from what it leaves to be decoded. -/
theorem feed_spec {d : Decoder} (held : Held d.held) (chunk : List UInt8) :
    Held (d.feed chunk).1.held ∧
      ∀ behind, decode (d.held ++ chunk ++ behind) =
        (d.feed chunk).2 ++ decode ((d.feed chunk).1.held ++ behind) := by
  obtain ⟨bytes⟩ := d
  cases held with
  | none =>
    have apart (behind : List UInt8) : Apart [] (chunk ++ behind) := apart_of_tails (by simp)
    exact ⟨(splitHeld_spec chunk).2.1, decode_completed apart⟩
  | @some lead tail tails short =>
    obtain ⟨found, rest, beginning, rfl, more, size, last⟩ :=
      exists_beginning (announced lead - (lead :: tail).length) chunk
    have conts : ∀ b ∈ tail ++ found, isContinuation b := fun b among =>
      (List.mem_append.mp among).elim (tails b) (more b)
    simp only [feed, beginning, List.drop_left]
    split
    case isTrue completed =>
      refine ⟨(splitHeld_spec rest).2.1, fun behind => ?_⟩
      rw [← List.append_assoc (lead :: tail), decode_completed fun behind => ?_]
      -- The character is complete, or the byte behind it breaks it off.
      by_cases full : found.length = announced lead - (lead :: tail).length
      · have foreign := not_isContinuation_of_announced (Nat.zero_lt_of_lt short)
        exact @apart_of_full [] _ _ _ foreign conts (by simp at full ⊢; omega)
      · refine apart_of_head fun b next => last (by omega) b ?_
        have there : rest ≠ [] := by simpa using completed.resolve_left full
        rwa [List.head?_append_of_ne_nil _ there] at next
    case isFalse waiting =>
      obtain ⟨unfilled, rfl⟩ :
          found.length ≠ announced lead - (lead :: tail).length ∧ rest = [] := by
        simpa using waiting
      refine ⟨.some conts (by simp at size unfilled ⊢; omega), fun behind => ?_⟩
      simp

end Decoder

end ConsoleHarness.Text
