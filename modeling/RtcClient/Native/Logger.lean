import RtcClient.Lib.Chunks
import Mathlib.Tactic.Common

/-!
# The default log handler

`Logger.DefaultLogHandler.OnLog` (`org/mediasoup/droid/Logger.java:54–82`) prints a
message in pieces of 2048 characters, since Android cuts longer lines. The loop index
is a Java `int`: it is an `Int32` here and wraps as Java's does, so that a message
close to the largest possible length can drive it below zero. The loop is given as
many turns as it is asked for; whether it ends is a theorem, not a part of the
definition.
-/

namespace RtcClient.Native.Logger

open RtcClient.Lib

/-- The UTF-16 code units of a Java string. -/
abbrev JString := List UInt16

/-- `Logger.LogLevel`; `Logger.java:19–46`. -/
inductive LogLevel where
  | logNone
  | logError
  | logWarn
  | logDebug
  | logTrace
  deriving DecidableEq, Repr

/-- The methods of `android.util.Log` the handler prints with. -/
inductive LogMethod where
  | e
  | w
  | d
  | i
  deriving DecidableEq, Repr

/-- The method a level is printed with, and none for the level the `switch` has no case
for; `Logger.java:57–80`. -/
def LogLevel.method : LogLevel → Option LogMethod
  | .logNone => none
  | .logError => some .e
  | .logWarn => some .w
  | .logDebug => some .d
  | .logTrace => some .i

/-- One call of a method of `Log`. -/
structure LogLine where
  method : LogMethod
  tag : JString
  msg : JString
  deriving DecidableEq, Repr

/-- `String.length()`, an `int`. -/
def length (s : JString) : Int32 := Int32.ofNat s.length

/-- `String.substring(beginIndex, endIndex)`, with `none` for its
`StringIndexOutOfBoundsException`. -/
def substring (s : JString) (beginIndex endIndex : Int32) : Option JString :=
  if beginIndex < 0 ∨ length s < endIndex ∨ endIndex < beginIndex then none
  else some ((s.take endIndex.toInt.toNat).drop beginIndex.toInt.toNat)

/-- `Math.min` on `int`. -/
def mathMin (a b : Int32) : Int32 := if a ≤ b then a else b

/-- `final int chunkSize = 2048`; `Logger.java:56`. -/
def chunkSize : Int32 := 2048

/-- A loop of the handler before a test of its condition: the index and what has been
printed. -/
structure Loop where
  i : Int32 := 0
  lines : List LogLine := []
  deriving DecidableEq, Repr

/-- How far a call of the handler has come. -/
inductive Outcome where
  | running (s : Loop)
  | threw (lines : List LogLine)
  | returned (lines : List LogLine)
  deriving DecidableEq, Repr

/-- At most `turns` tests of the condition of
`for (int i = 0; i < message.length(); i += chunkSize)`, each with the body and the
increment after it; `Logger.java:59–61`, and the same loop for the other levels. -/
def printChunks (method : LogMethod) (tag message : JString) : (turns : Nat) → Loop → Outcome
  | 0, s => .running s
  | turns + 1, s =>
    if s.i < length message then
      match substring message s.i (mathMin (length message) (s.i + chunkSize)) with
      | none => .threw s.lines
      | some msg => printChunks method tag message turns
          { i := s.i + chunkSize, lines := s.lines ++ [⟨method, tag, msg⟩] }
    else .returned s.lines

/-- `OnLog`, followed for at most `turns` tests of its loop; `Logger.java:54–82`. -/
def onLog (turns : Nat) (level : LogLevel) (tag message : JString) : Outcome :=
  match level.method with
  | none => .returned []
  | some method => printChunks method tag message turns {}

/-- The addition of the increment, which is also the one in the clamped bound, is exact. -/
def Loop.AddsExactly (s : Loop) : Prop :=
  (s.i + chunkSize).toInt = s.i.toInt + chunkSize.toInt

section Message

variable {method : LogMethod} {tag message : JString} {s : Loop} {n : Nat}

/-- The index stands at position `n`, from which one more increment is exact. -/
structure Loop.At (s : Loop) (message : JString) (n : Nat) : Prop where
  index : s.i.toInt = n
  bound : n < message.length + 2048

private theorem length_toInt (hm : message.length ≤ 2 ^ 31 - 2048) :
    (length message).toInt = message.length :=
  Int32.toInt_ofNat_of_lt (by omega)

private theorem chunkSize_toInt : chunkSize.toInt = 2048 := by decide

private theorem Loop.At.lt_length (h : s.At message n) (hm : message.length ≤ 2 ^ 31 - 2048) :
    s.i < length message ↔ n < message.length := by
  rw [Int32.lt_iff_toInt_lt, h.index, length_toInt hm, Int.ofNat_lt]

/-- In front of the end of the message the increment does not wrap. -/
theorem Loop.At.addsExactly (h : s.At message n) (hm : message.length ≤ 2 ^ 31 - 2048)
    (hn : n < message.length) : s.AddsExactly := by
  rw [Loop.AddsExactly, Int32.toInt_add, h.index, chunkSize_toInt]
  exact Int.bmod_eq_of_le (by omega) (by omega)

private theorem Loop.At.next (h : s.At message n) (hm : message.length ≤ 2 ^ 31 - 2048)
    (hn : n < message.length) (lines : List LogLine) :
    ({ i := s.i + chunkSize, lines := lines } : Loop).At message (n + 2048) where
  index := by
    have hadd : (s.i + chunkSize).toInt = s.i.toInt + chunkSize.toInt := h.addsExactly hm hn
    rw [hadd, h.index, chunkSize_toInt, Nat.cast_add]
    rfl
  bound := by omega

/-- The clamped bound of a turn is where its piece of the message ends. -/
theorem Loop.At.mathMin_toInt (h : s.At message n) (hm : message.length ≤ 2 ^ 31 - 2048)
    (hn : n < message.length) :
    (mathMin (length message) (s.i + chunkSize)).toInt = (min message.length (n + 2048) : Nat) := by
  have hadd : (s.i + chunkSize).toInt = s.i.toInt + chunkSize.toInt := h.addsExactly hm hn
  rw [h.index, chunkSize_toInt] at hadd
  rw [mathMin]
  split
  · next hle =>
    rw [Int32.le_iff_toInt_le, length_toInt hm, hadd] at hle
    rw [length_toInt hm]
    omega
  · next hle =>
    rw [Int32.le_iff_toInt_le, length_toInt hm, hadd] at hle
    rw [hadd]
    omega

/-- The `substring` of a turn does not throw; it is the next piece of the message. -/
theorem Loop.At.substring_eq (h : s.At message n) (hm : message.length ≤ 2 ^ 31 - 2048)
    (hn : n < message.length) :
    substring message s.i (mathMin (length message) (s.i + chunkSize)) =
      some ((message.drop n).take 2048) := by
  have hend := h.mathMin_toInt hm hn
  have hok : ¬ (s.i < 0 ∨ length message < mathMin (length message) (s.i + chunkSize) ∨
      mathMin (length message) (s.i + chunkSize) < s.i) := by
    simp only [Int32.lt_iff_toInt_lt, hend, h.index, length_toInt hm, Int32.toInt_zero]
    omega
  rw [substring, if_neg hok, hend, h.index, Int.toNat_natCast, Int.toNat_natCast]
  rw [List.drop_take, Option.some_inj, List.take_eq_take_iff, List.length_drop]
  omega

/-- From position `n` the loop prints the pieces of what lies behind `n` and returns, once
it has a turn for each piece and one for the last test. -/
theorem printChunks_eq (hm : message.length ≤ 2 ^ 31 - 2048) (turns : Nat) (h : s.At message n)
    (ht : (message.drop n).length ⌈/⌉ 2048 < turns) :
    printChunks method tag message turns s =
      .returned (s.lines ++ (chunks 2048 (message.drop n)).map (⟨method, tag, ·⟩)) := by
  induction turns generalizing s n with
  | zero => omega
  | succ turns ih =>
    rw [printChunks]
    by_cases hn : n < message.length
    · have hne : message.drop n ≠ [] := by
        intro hnil
        have := List.drop_eq_nil_iff.mp hnil
        omega
      have hcons := chunks_of_ne_nil (by decide : 0 < 2048) hne
      have hlen := length_chunks (by decide : 0 < 2048) (message.drop n)
      rw [hcons, List.length_cons, List.drop_drop, length_chunks (by decide)] at hlen
      rw [if_pos ((h.lt_length hm).mpr hn), h.substring_eq hm hn, hcons, List.drop_drop]
      simp only
      rw [ih (h.next hm hn _) (by omega), List.map_cons, List.append_assoc, List.singleton_append]
    · rw [if_neg (mt (h.lt_length hm).mp hn), List.drop_eq_nil_of_le (by omega), chunks_nil,
        List.map_nil, List.append_nil]

/-- Wherever the loop is followed to, its index is a position. -/
theorem printChunks_at (hm : message.length ≤ 2 ^ 31 - 2048) (turns : Nat) (h : s.At message n)
    {s' : Loop} (hs : printChunks method tag message turns s = .running s') :
    ∃ n', s'.At message n' := by
  induction turns generalizing s n with
  | zero =>
    cases hs
    exact ⟨n, h⟩
  | succ turns ih =>
    rw [printChunks] at hs
    by_cases hn : n < message.length
    · rw [if_pos ((h.lt_length hm).mpr hn), h.substring_eq hm hn] at hs
      exact ih (h.next hm hn _) hs
    · rw [if_neg (mt (h.lt_length hm).mp hn)] at hs
      cases hs

private theorem Loop.at_start (message : JString) : ({} : Loop).At message 0 where
  index := by decide
  bound := by omega

end Message

/-- At every printing level, and for every message that leaves room for one increment
behind it, the handler returns after one turn a line and one more. It has then printed the
message in order, in `⌈n / 2048⌉` lines of 1 to 2048 characters, and no index on the way
there has wrapped. -/
theorem onLog_chunks (level : LogLevel) (method : LogMethod) (hl : level.method = some method)
    (tag message : JString) (hm : message.length ≤ 2 ^ 31 - 2048) :
    (∃ lines : List LogLine,
      (∀ turns, message.length ⌈/⌉ 2048 < turns →
        onLog turns level tag message = .returned lines) ∧
      lines.length = message.length ⌈/⌉ 2048 ∧
      (∀ line ∈ lines, line.method = method ∧ line.tag = tag ∧
        1 ≤ line.msg.length ∧ line.msg.length ≤ 2048) ∧
      (lines.map (·.msg)).flatten = message) ∧
    ∀ turns s, onLog turns level tag message = .running s → s.i < length message →
      s.AddsExactly := by
  have hlog : ∀ turns, onLog turns level tag message = printChunks method tag message turns {} := by
    intro turns
    rw [onLog, hl]
  constructor
  · refine ⟨(chunks 2048 message).map (⟨method, tag, ·⟩), ?_, ?_, ?_, ?_⟩
    · intro turns ht
      rw [hlog, printChunks_eq hm turns (Loop.at_start message) ht]
      rfl
    · rw [List.length_map, length_chunks (by decide)]
    · intro line hline
      obtain ⟨c, hc, rfl⟩ := List.mem_map.mp hline
      exact ⟨rfl, rfl, length_of_mem_chunks (by decide) hc⟩
    · rw [List.map_map]
      exact (congrArg List.flatten (List.map_id _)).trans (flatten_chunks (by decide) message)
  · intro turns s hs hlt
    rw [hlog] at hs
    obtain ⟨n, hn⟩ := printChunks_at hm turns (Loop.at_start message) hs
    exact hn.addsExactly hm ((hn.lt_length hm).mp hlt)

/-- A message of 5000 characters at the error level. -/
theorem onLog_chunks_error :
    (∃ lines : List LogLine,
      (∀ turns, (List.replicate 5000 (65 : UInt16)).length ⌈/⌉ 2048 < turns →
        onLog turns .logError [84] (List.replicate 5000 65) = .returned lines) ∧
      lines.length = (List.replicate 5000 (65 : UInt16)).length ⌈/⌉ 2048 ∧
      (∀ line ∈ lines, line.method = .e ∧ line.tag = [84] ∧
        1 ≤ line.msg.length ∧ line.msg.length ≤ 2048) ∧
      (lines.map (·.msg)).flatten = List.replicate 5000 65) ∧
    ∀ turns s, onLog turns .logError [84] (List.replicate 5000 65) = .running s →
      s.i < length (List.replicate 5000 65) → s.AddsExactly :=
  onLog_chunks .logError .e rfl [84] (List.replicate 5000 65)
    (by rw [List.length_replicate]; omega)

end RtcClient.Native.Logger
