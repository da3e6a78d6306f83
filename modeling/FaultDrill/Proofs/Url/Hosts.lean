import FaultDrill.Proofs.Url.Continuation

/-!
Hosts and ports that end in a blank. There are none: no name, no number and no bracket is
followed by a blank in the part of an address that names the host.
-/

namespace FaultDrill.Url

/-! ## Names -/

theorem byte_of_encode_concat {char : Char} {byte : UInt8} {front : List UInt8}
    (ends : String.utf8EncodeChar char = front ++ [byte]) (small : byte.toNat < 0x80) :
    byte.toNat = char.toNat := by
  have last := congrArg List.getLast? ends
  rw [List.getLast?_concat, String.utf8EncodeChar] at last
  have high : ∀ value, (UInt8.ofNat (value % 0x40 + 0x80)).toNat = value % 0x40 + 0x80 := by
    intro value
    rw [UInt8.toNat_ofNat']
    omega
  split at last
  · rename_i plain
    rw [List.getLast?_singleton, Option.some.injEq] at last
    rw [← last, UInt8.toNat_ofNat']
    exact Nat.mod_eq_of_lt (by omega)
  · -- The last byte of a character of several is never one of seven bits.
    have isHigh : UInt8.ofNat (char.val.toNat % 0x40 + 0x80) = byte := by
      split at last
      · simpa using last
      · split at last
        · simpa using last
        · simpa using last
    rw [← isHigh, high] at small
    omega

theorem bytesOf_append (front back : List Char) :
    bytesOf (front ++ back) = bytesOf front ++ bytesOf back := List.flatMap_append

/-- A character of seven bits is the last one of a text if its byte is the last one. -/
theorem mem_of_bytesOf {text : List Char} {front : List UInt8} {char : Char}
    (small : char.toNat < 0x80) (bytes : bytesOf text = front ++ String.utf8EncodeChar char) :
    char ∈ text := by
  have single : String.utf8EncodeChar char = [UInt8.ofNat char.toNat] := by
    rw [String.utf8EncodeChar]
    exact if_pos (by change char.toNat ≤ 0x7f; omega)
  have value : (UInt8.ofNat char.toNat).toNat = char.toNat := by
    rw [UInt8.toNat_ofNat']
    exact Nat.mod_eq_of_lt (by omega)
  rw [single] at bytes
  rcases List.eq_nil_or_concat text with none | ⟨others, last, chars⟩
  · rw [none] at bytes
    simp [bytesOf] at bytes
  · rw [List.concat_eq_append] at chars
    rw [chars, bytesOf_append] at bytes
    rcases List.eq_nil_or_concat (String.utf8EncodeChar last) with none | ⟨start, byte, encoded⟩
    · exact absurd none String.utf8EncodeChar_ne_nil
    · rw [List.concat_eq_append] at encoded
      have ofLast : bytesOf [last] = start ++ [byte] := by
        rw [bytesOf, List.flatMap_singleton, encoded]
      rw [ofLast, ← List.append_assoc] at bytes
      have same := List.append_inj_right' bytes rfl
      rw [List.cons.injEq] at same
      have code := byte_of_encode_concat encoded (by rw [same.1, value]; exact small)
      rw [same.1, value] at code
      rw [chars, Char.toNat_inj.mp code]
      exact List.mem_append_right _ List.mem_cons_self

theorem unescape_concat {last : Char} (notHex : Text.hexValue? last = none) (notPercent : last ≠ '%')
    (text : List Char) :
    unescape (text ++ [last]) = unescape text ++ String.utf8EncodeChar last := by
  induction text using escapeInduction with
  | nil =>
      have apart : (last = '%' && startsWithByte []) = false := by simp [notPercent]
      rw [List.nil_append, unescape_cons apart]
      exact List.append_nil _
  | byte high low first second rest isHigh isLow induction =>
      rw [List.cons_append, List.cons_append, List.cons_append, unescape_byte isHigh isLow,
        unescape_byte isHigh isLow, induction, List.cons_append]
  | char char rest apart induction =>
      have apartBehind : (char = '%' && startsWithByte (rest ++ [last])) = false := by
        rw [← apart]
        congr 1
        match rest with
        | [] => rfl
        | [high] => simp [startsWithByte, notHex]
        | _ :: _ :: _ => rfl
      rw [List.cons_append, unescape_cons apartBehind, unescape_cons apart, induction,
        List.append_assoc]

theorem bytesOf_of_fromUTF8? {bytes : List UInt8} {text : String}
    (read : String.fromUTF8? ⟨bytes.toArray⟩ = some text) : bytesOf text.toList = bytes := by
  rw [String.fromUTF8?] at read
  split at read
  · cases read
    rename_i valid
    have whole := String.utf8Encode_toList (b := String.fromUTF8 _ valid)
    rw [List.utf8Encode] at whole
    change _ = ByteArray.mk bytes.toArray at whole
    have data := congrArg (fun array => array.data.toList) whole
    simpa [List.data_toByteArray, bytesOf] using data
  · cases read

theorem mapM_eq_none {α β : Type} (change : α → Option β) {value : α} {values : List α}
    (member : value ∈ values) (fails : change value = none) : values.mapM change = none := by
  induction values with
  | nil => cases member
  | cons first rest induction =>
      rw [List.mapM_cons]
      rcases List.mem_cons.mp member with same | later
      · rw [← same, fails]
        rfl
      · rw [induction later]
        cases change first <;> rfl

section Blank

variable {last : Char} (blank : isBlank last = true)
include blank

theorem ofNat_of_isBlank : ∃ code : Fin 33, last = Char.ofNat code := by
  rw [isBlank, decide_eq_true_eq] at blank
  exact ⟨⟨last.toNat, by omega⟩, (Char.ofNat_toNat last).symm⟩

theorem ne_of_isBlank {char : Char} (seen : isBlank char = false) : last ≠ char := by
  intro same
  rw [same, seen] at blank
  cases blank

theorem not_isHex_of_isBlank : Text.hexValue? last = none := by
  have all : ∀ code : Fin 33, Text.hexValue? (Char.ofNat code) = none := by decide +kernel
  rcases ofNat_of_isBlank blank with ⟨code, same⟩
  rw [same]
  exact all code

theorem nameChars?_of_isBlank : nameChars? last = none := by
  have all : ∀ code : Fin 33, nameChars? (Char.ofNat code) = none := by decide +kernel
  rcases ofNat_of_isBlank blank with ⟨code, same⟩
  rw [same]
  exact all code

theorem name?_of_isBlank (text : List Char) : name? (unescape (text ++ [last])) = none := by
  have small : last.toNat < 0x80 := by
    rw [isBlank, decide_eq_true_eq] at blank
    omega
  rw [unescape_concat (not_isHex_of_isBlank blank) (ne_of_isBlank blank (by decide)), name?]
  cases read : String.fromUTF8? ⟨(unescape text ++ String.utf8EncodeChar last).toArray⟩ with
  | none => rfl
  | some name =>
      have refused := mapM_eq_none _ (mem_of_bytesOf small (bytesOf_of_fromUTF8? read))
        (nameChars?_of_isBlank blank)
      simp only [bind, Option.bind]
      rw [refused]

theorem specialHost_of_isBlank (text : List Char) (host : Host) :
    specialHost (text ++ [last]) ≠ .ok host := by
  intro read
  rw [specialHost] at read
  split at read
  · rw [bracketedHost, List.reverse_append, List.reverse_singleton, List.singleton_append] at read
    split at read
    · rename_i inner chars
      rw [List.cons.injEq] at chars
      exact ne_of_isBlank blank (by decide) chars.1
    · cases read
  · rw [name?_of_isBlank blank] at read
    cases read

/-! ## Ports -/

theorem splitPort_concat (isBracketed : Bool) (front : List Char) :
    (∃ host, splitPort isBracketed (front ++ [last]) = (host ++ [last], none)) ∨
      ∃ host port, splitPort isBracketed (front ++ [last]) = (host, some (port ++ [last])) ∧
        port <:+ front := by
  induction front generalizing isBracketed with
  | nil =>
      refine .inl ⟨[], ?_⟩
      have noColon : last ≠ ':' := ne_of_isBlank blank (by decide)
      simp [splitPort, noColon]
  | cons char rest induction =>
      rw [List.cons_append, splitPort]
      split
      · exact .inr ⟨[], rest, rfl, List.suffix_cons char rest⟩
      · dsimp only
        rcases induction (char = '[' || (isBracketed && char ≠ ']')) with
          ⟨host, inHost⟩ | ⟨host, port, inPort, within⟩
        · exact .inl ⟨char :: host, by rw [inHost]; rfl⟩
        · exact .inr ⟨char :: host, port, by rw [inPort], within.trans (List.suffix_cons char rest)⟩

theorem port?_of_isBlank (scheme : String) (text : List Char) (port : Option UInt16) :
    port? scheme (text ++ [last]) ≠ .ok port := by
  have noDigit : (Text.hexValue? last).filter (· < 10) = none := by
    rw [not_isHex_of_isBlank blank]
    rfl
  have inside : last ∈ text ++ [last] := List.mem_append_right _ List.mem_cons_self
  have noDigits : digitsBelow? 10 (text ++ [last]) = none := by
    rw [digitsBelow?,
      mapM_eq_none (fun digit => (Text.hexValue? digit).filter (· < 10)) inside noDigit]
    rfl
  rw [port?, noDigits]
  simp

/-! ## Both -/

theorem behindUser_concat (front : List Char) :
    ∃ behind, (behindUser (front ++ [last])).getD (front ++ [last]) = behind ++ [last] ∧
      behind <:+ front := by
  rw [behindUser]
  split
  · have noAt : last ≠ '@' := ne_of_isBlank blank (by decide)
    refine ⟨(front.reverse.takeWhile (· ≠ '@')).reverse, ?_, ?_⟩
    · rw [List.reverse_append, List.reverse_singleton, List.singleton_append,
        List.takeWhile_cons_of_pos (by simp [noAt])]
      simp
    · rw [← List.reverse_prefix, List.reverse_reverse]
      exact List.takeWhile_prefix _
  · exact ⟨front, rfl, List.suffix_rfl⟩

theorem hostAndPort_of_isBlank (scheme : String) {front : List Char} (noBackslash : '\\' ∉ front)
    (place : Host × Option UInt16) : hostAndPort scheme (front ++ [last]) ≠ .ok place := by
  intro named
  rcases behindUser_concat blank front with ⟨behind, rest, within⟩
  rw [hostAndPort, rest] at named
  rcases splitPort_concat blank false behind with ⟨host, split⟩ | ⟨host, port, split, inBehind⟩
  · rw [split] at named
    have some : (host ++ [last]).isEmpty = false := by simp
    simp only [some, Bool.false_eq_true, if_false, bind, Except.bind] at named
    cases special : specialHost (host ++ [last]) with
    | error error =>
        rw [special] at named
        cases named
    | ok known => exact specialHost_of_isBlank blank host known special
  · have whole : (port ++ [last]).takeWhile (· ≠ '\\') = port ++ [last] := by
      apply takeWhile_ne_of_notMem
      intro member
      rcases List.mem_append.mp member with inPort | isLast
      · exact noBackslash (within.subset (inBehind.subset inPort))
      · exact ne_of_isBlank blank (by decide) (List.mem_singleton.mp isLast).symm
    rw [split] at named
    simp only [bind, Except.bind, whole] at named
    split at named
    · cases named
    · split at named
      · cases named
      · split at named
        · cases named
        · rename_i known read
          exact port?_of_isBlank blank scheme port known read

end Blank

end FaultDrill.Url
