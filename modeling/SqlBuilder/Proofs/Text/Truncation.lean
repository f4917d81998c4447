import Mathlib.Data.List.Infix
import SqlBuilder.Config

/-!
# Cutting a text at a limit

A text is cut by going back from the limit over the octets that go on with a character. What stands
there is a boundary, so that the text can be cut, and no boundary lies between it and the limit. The
starts of a text are its characters up to a boundary, and so what is left is the longest start
within the limit.
-/

namespace SqlBuilder

namespace Text.Utf8

theorem isBoundary_succ {octets : List UInt8} {index : Nat} :
    isBoundary octets (index + 1) = true ↔
      index + 1 = octets.length ∨ ∃ octet, octets[index + 1]? = some octet ∧
        continues octet = false := by
  unfold isBoundary
  cases found : octets[index + 1]? with
  | none => simp
  | some octet =>
      have within : index + 1 < octets.length := (List.getElem?_eq_some_iff.1 found).1
      simp [within.ne]

/-! ### Going back to a boundary -/

theorem lastBoundary_le (octets : List UInt8) (index : Nat) :
    lastBoundary octets index ≤ index := by
  induction index with
  | zero => exact Nat.le_refl 0
  | succ index ih =>
      unfold lastBoundary
      split <;> omega

/-- No boundary is passed over. -/
theorem le_lastBoundary {octets : List UInt8} {index limit : Nat} (within : index ≤ limit)
    (boundary : isBoundary octets index = true) : index ≤ lastBoundary octets limit := by
  induction limit with
  | zero => omega
  | succ limit ih =>
      unfold lastBoundary
      split
      case isTrue => exact within
      case isFalse inside =>
        have other : index ≠ limit + 1 := by
          rintro rfl
          exact inside boundary
        exact ih (by omega)

/-! ### Boundaries are where characters end -/

/-- A character does not start with an octet that goes on with another one. -/
theorem continues_head {c : Char} {octet : UInt8}
    (first : (String.utf8EncodeChar c).head? = some octet) : continues octet = false := by
  have low {number : Nat} (small : number < 128) : continues (UInt8.ofNat number) = false := by
    have byte : number % 256 / 64 ≠ 2 := by omega
    simpa [continues] using byte
  have high {number : Nat} (great : 192 ≤ number) (byte : number < 256) :
      continues (UInt8.ofNat number) = false := by
    have differs : number % 256 / 64 ≠ 2 := by omega
    simpa [continues] using differs
  unfold String.utf8EncodeChar at first
  dsimp only at first
  split_ifs at first <;> rw [List.head?_cons, Option.some.injEq] at first <;> subst first
  · exact low (by omega)
  · exact high (by omega) (by omega)
  · exact high (by omega) (by omega)
  · exact high (by omega) (by omega)

theorem isBoundary_append (front rest : List Char) :
    isBoundary ((front ++ rest).flatMap String.utf8EncodeChar)
      (front.flatMap String.utf8EncodeChar).length = true := by
  cases size : (front.flatMap String.utf8EncodeChar).length with
  | zero => rfl
  | succ index =>
      rw [isBoundary_succ, ← size, List.flatMap_append, List.length_append,
        List.getElem?_append_right (Nat.le_refl _), Nat.sub_self]
      cases rest with
      | nil => simp
      | cons c rest =>
          have positive : 0 < (String.utf8EncodeChar c).length := by
            rw [String.length_utf8EncodeChar]
            exact c.utf8Size_pos
          obtain ⟨octet, tail, shape⟩ := List.exists_cons_of_length_pos positive
          refine .inr ⟨octet, ?_, continues_head (c := c) ?_⟩
          · rw [List.flatMap_cons, shape]
            rfl
          · rw [shape]
            rfl

/-- What a text is cut to are the characters of so many octets. -/
theorem slice?_eq_some {chars front : List Char} {index : Nat}
    (cut : slice? index chars = some front) :
    front <+: chars ∧ (front.flatMap String.utf8EncodeChar).length = index := by
  induction chars generalizing index front with
  | nil =>
      cases index with
      | zero =>
          cases cut
          exact ⟨List.nil_prefix, rfl⟩
      | succ index => cases cut
  | cons c rest ih =>
      cases index with
      | zero =>
          cases cut
          exact ⟨List.nil_prefix, rfl⟩
      | succ index =>
          unfold slice? at cut
          split at cut
          case isTrue fits =>
            obtain ⟨more, within, rfl⟩ := Option.map_eq_some_iff.1 cut
            obtain ⟨starts, size⟩ := ih within
            refine ⟨List.prefix_cons_inj c |>.2 starts, ?_⟩
            rw [List.flatMap_cons, List.length_append, size, String.length_utf8EncodeChar]
            omega
          case isFalse => cases cut

/-! ### The longest start -/

theorem encode_ofList (chars : List Char) :
    encode (String.ofList chars) = chars.flatMap String.utf8EncodeChar := by
  simp [encode]

theorem utf8ByteSize_eq (text : String) : text.utf8ByteSize = (encode text).length := by
  conv_lhs => rw [← String.ofList_toList (s := text)]
  rw [← String.size_toByteArray, String.toByteArray_ofList, List.utf8Encode,
    List.size_toByteArray, encode]

theorem slice?_lastBoundary {limit : Nat} {text : String} (long : limit < text.utf8ByteSize) :
    slice? (lastBoundary (encode text) limit) text.toList =
      some (truncate limit text).toList := by
  rw [truncate, if_neg (by omega)]
  simp

theorem truncate_starts (limit : Nat) (text : String) :
    (truncate limit text).toList <+: text.toList := by
  by_cases short : text.utf8ByteSize ≤ limit
  · rw [truncate, if_pos short]
  · exact (slice?_eq_some (slice?_lastBoundary (by omega))).1

theorem utf8ByteSize_truncate_le (limit : Nat) (text : String) :
    (truncate limit text).utf8ByteSize ≤ limit := by
  by_cases short : text.utf8ByteSize ≤ limit
  · rwa [truncate, if_pos short]
  · have size := (slice?_eq_some (slice?_lastBoundary (Nat.lt_of_not_le short))).2
    rw [utf8ByteSize_eq, encode, size]
    exact lastBoundary_le _ _

theorem isBoundary_truncate (limit : Nat) (text : String) :
    isBoundary (encode text) (truncate limit text).utf8ByteSize = true := by
  obtain ⟨rest, whole⟩ := truncate_starts limit text
  have boundary := isBoundary_append (truncate limit text).toList rest
  rw [whole] at boundary
  rwa [utf8ByteSize_eq]

/-- Of two starts of a text the one of fewer octets is a start of the other. -/
theorem starts_of_size_le {chars front other : List Char} (starts : front <+: chars)
    (also : other <+: chars)
    (size : (front.flatMap String.utf8EncodeChar).length ≤
      (other.flatMap String.utf8EncodeChar).length) : front <+: other := by
  rcases List.prefix_or_prefix_of_prefix starts also with within | ⟨more, rfl⟩
  · exact within
  · rw [List.flatMap_append, List.length_append] at size
    cases more with
    | nil => simp
    | cons c more =>
        rw [List.flatMap_cons, List.length_append, String.length_utf8EncodeChar] at size
        have positive := c.utf8Size_pos
        omega

/-- Every start of a text within the limit is a start of what it is cut to. -/
theorem starts_truncate {limit : Nat} {text : String} {front : List Char}
    (starts : front <+: text.toList) (within : (String.ofList front).utf8ByteSize ≤ limit) :
    front <+: (truncate limit text).toList := by
  by_cases short : text.utf8ByteSize ≤ limit
  · rwa [truncate, if_pos short]
  · obtain ⟨cut, size⟩ := slice?_eq_some (slice?_lastBoundary (Nat.lt_of_not_le short))
    obtain ⟨rest, whole⟩ := starts
    have boundary := isBoundary_append front rest
    rw [utf8ByteSize_eq, encode_ofList] at within
    rw [whole] at boundary
    -- The cut is at the last boundary within the limit, and the front ends at one.
    have reached := le_lastBoundary within boundary
    rw [← encode, ← size] at reached
    exact starts_of_size_le ⟨rest, whole⟩ cut reached

end Text.Utf8

namespace Config

open Text.Utf8

/--
A statement is logged as it is if there is no limit or its octets are within the limit, and else cut
and followed by dots. What it is cut to is the longest start of the text within the limit: where the
search for a boundary stops, the text can be cut.
-/
theorem loggedSql_truncates (config : Config) (sql : String) :
    (∀ limit, (truncate limit sql).toList <+: sql.toList ∧
      (truncate limit sql).utf8ByteSize ≤ limit ∧
      isBoundary (encode sql) (truncate limit sql).utf8ByteSize = true ∧
      (∀ front, front <+: sql.toList → (String.ofList front).utf8ByteSize ≤ limit →
        front <+: (truncate limit sql).toList) ∧
      (limit < sql.utf8ByteSize →
        slice? (lastBoundary (encode sql) limit) sql.toList =
          some (truncate limit sql).toList)) ∧
    (config.logLimit = none → config.loggedSql sql = sql) ∧
    ∀ limit, config.logLimit = some limit →
      (sql.utf8ByteSize ≤ limit → config.loggedSql sql = sql) ∧
      (limit < sql.utf8ByteSize → config.loggedSql sql = truncate limit sql ++ "...") ∧
      (config.loggedSql sql).utf8ByteSize ≤ limit + 3 := by
  refine ⟨fun limit => ⟨truncate_starts limit sql, utf8ByteSize_truncate_le limit sql,
    isBoundary_truncate limit sql, fun _ => starts_truncate, slice?_lastBoundary⟩,
    fun none => by rw [loggedSql, none], fun limit some => ?_⟩
  by_cases long : limit < sql.utf8ByteSize
  · have logged : config.loggedSql sql = truncate limit sql ++ "..." := by
      simp only [loggedSql, some, if_pos long]
    refine ⟨fun short => by omega, fun _ => logged, ?_⟩
    have within := utf8ByteSize_truncate_le limit sql
    have dots : "...".utf8ByteSize = 3 := by decide
    rw [logged, String.utf8ByteSize_append, dots]
    omega
  · have logged : config.loggedSql sql = sql := by
      simp only [loggedSql, some, if_neg long]
    refine ⟨fun _ => logged, fun other => absurd other long, ?_⟩
    rw [logged]
    omega

/-- A limit inside of a character cuts in front of it. -/
theorem loggedSql_truncates_inside :
    let config : Config := { logLimit := some 2 }
    config.logLimit = some 2 ∧ 2 < "héllo".utf8ByteSize ∧ config.loggedSql "héllo" = "h..." := by
  intro config
  have long : 2 < "héllo".utf8ByteSize := by decide
  obtain ⟨starts, -, limited⟩ := loggedSql_truncates config "héllo"
  have cut : truncate 2 "héllo" = "h" := by
    rw [← String.toList_inj, ← Option.some_inj, ← (starts 2).2.2.2.2 long]
    decide
  exact ⟨rfl, long, by rw [(limited 2 rfl).2.1 long, cut]; rfl⟩

end Config

end SqlBuilder
