import Lazier.Library.Unicode
import Lazier.Quorum.Head

/-!
# Provider errors

A Go error is the chain that `errors.Unwrap` walks, outermost first.  A node
has its text and, where its type is an `rpc.Error` or an `rpc.DataError`, a
code or attached data.  This module has the classifier with which the quorum
client admits a provider error as a revert of the call and gives it an
identity.
-/

namespace Lazier.Quorum

open Library Store List

/-- `ErrorData()`: a string, a byte slice or anything else. -/
inductive ErrorData
  | text (value : String)
  | bytes (value : Bytes)
  | other
  deriving DecidableEq

structure ErrorNode where
  text : String
  code : Option ℤ
  data : Option ErrorData
  deriving DecidableEq

/-- What a provider or the transport answers instead of a value. -/
abbrev ErrorChain := List ErrorNode

namespace ErrorChain

/-- `Error()` of the outermost node. -/
def text (chain : ErrorChain) : String :=
  match chain with
  | [] => ""
  | node :: _ => node.text

/-- The first `rpc.Error`, as `errors.As` finds it. -/
def rpcError (chain : ErrorChain) : Option ErrorNode := chain.find? fun node => node.code.isSome

/-- The data of the first `rpc.DataError`. -/
def errorData (chain : ErrorChain) : Option ErrorData := chain.findSome? ErrorNode.data

end ErrorChain

/-- An error inside the worker: its chain, and whether a `VotedRevertError` or
`ErrTxDeferred` is part of it.  No provider error has those types. -/
structure GoError where
  chain : ErrorChain
  votedRevert : Bool
  txDeferred : Bool
  deriving DecidableEq

namespace GoError

/-- `errors.New`, and `fmt.Errorf` without a wrapped error. -/
def new (text : String) : GoError := ⟨[⟨text, none, none⟩], false, false⟩

def ofChain (chain : ErrorChain) : GoError := ⟨chain, false, false⟩

/-- `VotedRevertError`: it renders the winning error unchanged. -/
def voted (winner : ErrorChain) : GoError := ⟨⟨winner.text, none, none⟩ :: winner, true, false⟩

end GoError

/-- `wrapProviderOperationError`.  The text names the provider and the
operation, and `Unwrap` exposes the cause. -/
def wrapProviderOperationError (index : ℕ) (operation : String) (cause : ErrorChain) : ErrorChain :=
  ⟨providerID index ++ " " ++ operation ++ " failed", none, none⟩ :: cause

/-! ## Texts -/

/-- `strings.ToLower`. -/
def toLower (text : List Char) : List Char := text.map Unicode.toLower

/-- `unicode.IsSpace`. -/
def isSpace (char : Char) : Bool :=
  let code := char.toNat
  (0x09 ≤ code && code ≤ 0x0d) || code == 0x20 || code == 0x85 ||
    code == 0xa0 || code == 0x1680 || (0x2000 ≤ code && code ≤ 0x200a) ||
    code == 0x2028 || code == 0x2029 || code == 0x202f || code == 0x205f || code == 0x3000

def trimSpace (text : List Char) : List Char :=
  ((text.dropWhile isSpace).reverse.dropWhile isSpace).reverse

/-- `strings.Contains`. -/
def contains (text : List Char) (word : String) : Bool :=
  decide (word.toList <:+: text)

def isASCIILetter (char : Char) : Bool := ('a' ≤ char && char ≤ 'z') || ('A' ≤ char && char ≤ 'Z')

def revertStem : List Char := "revert".toList

/-- The loop of `containsRevertWord` from one position on.  After a match it
goes on behind the letters of that match, so `skip` more are passed over. -/
def scanRevertWord : Option Char → ℕ → List Char → Bool
  | _, _, [] => false
  | _, skip + 1, char :: rest => scanRevertWord (some char) skip rest
  | previous, 0, char :: rest =>
    if revertStem.isPrefixOf (char :: rest) then
      let suffix := ((char :: rest).drop revertStem.length).takeWhile isASCIILetter
      let precededByLetter := previous.any isASCIILetter
      if (suffix = [] ∨ suffix = "ed".toList) ∧ ¬ precededByLetter then true
      else
        scanRevertWord (some char) (revertStem.length + suffix.length - 1) rest
    else scanRevertWord (some char) 0 rest

/-- "revert" or "reverted" as a word of its own. -/
def containsRevertWord (message : List Char) : Bool := scanRevertWord none 0 message

/-! ## The words of a message -/

/-- `isASCIILetter(text[index])`. -/
def letterAt (text : List Char) (index : ℕ) : Bool := text[index]?.any isASCIILetter

/-- `strings.Index(text, "revert")`. -/
def indexRevert (text : List Char) : Option ℕ := text.tails.findIdx? revertStem.isPrefixOf

/-- The loop of `containsRevertWord` as the source indexes it, for at most
`rounds` turns. -/
def revertWordLoop (message : List Char) : ℕ → ℕ → Option Bool
  | 0, _ => none
  | rounds + 1, index =>
    match indexRevert (message.drop index) with
    | none => some false
    | some offset =>
      let start := index + offset
      let suffix := (message.drop (start + revertStem.length)).takeWhile isASCIILetter
      let precededByLetter := 0 < start ∧ letterAt message (start - 1)
      if (suffix = [] ∨ suffix = "ed".toList) ∧ ¬ precededByLetter then some true
      else revertWordLoop message rounds (start + revertStem.length + suffix.length)

/-- The word is at the position, with no letter next to it. -/
structure StandsAlone (message word : List Char) (position : ℕ) : Prop where
  occurs : word <+: message.drop position
  unpreceded : ¬ (0 < position ∧ letterAt message (position - 1))
  unfollowed : ¬ letterAt message (position + word.length)

def WordAt (message : List Char) (position : ℕ) : Prop :=
  ∃ word ∈ ["revert".toList, "reverted".toList], StandsAlone message word position

variable {message text : List Char} {start position index rounds : ℕ}

@[simp]
theorem revertStem_length : revertStem.length = 6 := rfl

theorem takeWhile_letters_eq {letters : List Char} (hletters : letters.all isASCIILetter) :
    text.takeWhile isASCIILetter = letters ↔ letters <+: text ∧ ¬ letterAt text letters.length := by
  induction letters generalizing text with
  | nil => cases text <;> simp [letterAt]
  | cons letter letters ih =>
    simp only [all_cons, Bool.and_eq_true] at hletters
    cases text with
    | nil => simp
    | cons char text =>
      have hshift : letterAt (char :: text) (letters.length + 1) = letterAt text letters.length :=
        rfl
      simp only [takeWhile_cons, cons_prefix_cons, length_cons, hshift, and_assoc,
        ← ih hletters.2]
      by_cases hchar : isASCIILetter char
      · simp only [hchar, if_true, cons.injEq, eq_comm]
      · constructor
        · simp [hchar]
        · rintro ⟨rfl, -⟩
          exact absurd hletters.1 hchar

theorem letterAt_drop {count : ℕ} :
    letterAt (message.drop position) count = letterAt message (position + count) := by
  rw [letterAt, letterAt, getElem?_drop]

theorem letterAt_of_lt {count : ℕ} (hlt : count < (text.takeWhile isASCIILetter).length) :
    letterAt text count := by
  have hprefix := takeWhile_prefix isASCIILetter (l := text)
  rw [letterAt, getElem?_eq_getElem (hlt.trans_le hprefix.length_le), ← hprefix.getElem hlt,
    Option.any_some]
  exact mem_takeWhile_imp (getElem_mem hlt)

/-- The letters from the position on. -/
def lettersAt (message : List Char) (position : ℕ) : List Char :=
  (message.drop position).takeWhile isASCIILetter

theorem wordAt_iff : WordAt message position ↔
    lettersAt message position ∈ ["revert".toList, "reverted".toList] ∧
      ¬ (0 < position ∧ letterAt message (position - 1)) := by
  have hword {word : List Char} (hletters : word.all isASCIILetter) :
      StandsAlone message word position ↔ lettersAt message position = word ∧
        ¬ (0 < position ∧ letterAt message (position - 1)) := by
    rw [lettersAt, takeWhile_letters_eq hletters, letterAt_drop]
    exact ⟨fun h => ⟨⟨h.occurs, h.unfollowed⟩, h.unpreceded⟩, fun h => ⟨h.1.1, h.2, h.1.2⟩⟩
  simp only [WordAt, mem_cons, not_mem_nil, or_false, exists_eq_or_imp, exists_eq_left]
  rw [hword rfl, hword rfl, or_and_right]

theorem lettersAt_of_stem (hstem : revertStem <+: message.drop start) :
    lettersAt message start =
      revertStem ++ (message.drop (start + revertStem.length)).takeWhile isASCIILetter := by
  obtain ⟨rest, hrest⟩ := hstem
  rw [lettersAt, ← drop_drop, ← hrest, drop_left,
    takeWhile_append_of_pos (all_eq_true.1 rfl)]

/-- The test of the loop at a match. -/
theorem wordAt_of_stem (hstem : revertStem <+: message.drop start) :
    WordAt message start ↔
      ((message.drop (start + revertStem.length)).takeWhile isASCIILetter = [] ∨
        (message.drop (start + revertStem.length)).takeWhile isASCIILetter = "ed".toList) ∧
      ¬ (0 < start ∧ letterAt message (start - 1)) := by
  have hbare : "revert".toList = revertStem ++ [] := rfl
  have hpast : "reverted".toList = revertStem ++ "ed".toList := rfl
  rw [wordAt_iff, lettersAt_of_stem hstem, hbare, hpast, mem_pair,
    append_right_inj, append_right_inj]

theorem WordAt.stem (hword : WordAt message position) : revertStem <+: message.drop position := by
  obtain ⟨word, hword, halone⟩ := hword
  have hstem : revertStem <+: word := by
    rcases mem_pair.1 hword with rfl | rfl <;> decide
  exact hstem.trans halone.occurs

/-- Some revert word starts at the index or behind it. -/
def WordFrom (message : List Char) (index : ℕ) : Prop :=
  ∃ position ≥ index, WordAt message position

theorem wordFrom_iff_of_not (hle : index ≤ start)
    (hnone : ∀ position ≥ index, position < start → ¬ WordAt message position) :
    WordFrom message index ↔ WordFrom message start := by
  constructor
  · rintro ⟨position, hfrom, hword⟩
    exact ⟨position, not_lt.1 fun hlt => hnone position hfrom hlt hword, hword⟩
  · rintro ⟨position, hfrom, hword⟩
    exact ⟨position, hle.trans hfrom, hword⟩

/-- A match that fails the test is passed over with all its letters: a position
among them has a letter before it. -/
theorem wordFrom_behind (hfails : ¬ WordAt message start) :
    WordFrom message start ↔ WordFrom message (start + (lettersAt message start).length) := by
  refine wordFrom_iff_of_not (by omega) fun position hfrom hlt hword => ?_
  rcases eq_or_lt_of_le hfrom with rfl | hafter
  · exact hfails hword
  · refine (wordAt_iff.1 hword).2 ⟨by omega, ?_⟩
    rw [← Nat.add_sub_of_le (Nat.le_sub_one_of_lt hafter), ← letterAt_drop]
    exact letterAt_of_lt (by unfold lettersAt at hlt; omega)

theorem scanRevertWord_iff {previous : Option Char} {skip : ℕ}
    (hprevious : previous.any isASCIILetter = true ↔ 0 < index ∧ letterAt message (index - 1))
    (htext : message.drop index = text) :
    scanRevertWord previous skip text = true ↔ WordFrom message (index + skip) := by
  induction text generalizing previous skip index with
  | nil =>
    refine iff_of_false Bool.false_ne_true ?_
    rintro ⟨position, hfrom, hword⟩
    have hstem := hword.stem
    rw [← Nat.add_sub_of_le hfrom, ← drop_drop, ← drop_drop, htext, drop_nil,
      drop_nil] at hstem
    exact absurd (prefix_nil.1 hstem) (by decide)
  | cons char rest ih =>
    have hnext : message.drop (index + 1) = rest := by rw [← drop_drop, htext]; rfl
    have hchar : message[index]? = some char := by rw [← head?_drop, htext]; rfl
    have hletter : (some char).any isASCIILetter = true ↔
        0 < index + 1 ∧ letterAt message (index + 1 - 1) := by simp [letterAt, hchar]
    cases skip with
    | succ skip => rw [scanRevertWord, ih hletter hnext, Nat.add_right_comm, Nat.add_assoc]
    | zero =>
      simp only [scanRevertWord, isPrefixOf_iff_prefix, ← htext, drop_drop, hprevious,
        Nat.add_zero]
      split_ifs with hstem haccepted
      · exact iff_of_true rfl ⟨index, le_rfl, (wordAt_of_stem hstem).2 haccepted⟩
      · rw [wordFrom_behind (mt (wordAt_of_stem hstem).1 haccepted),
          lettersAt_of_stem hstem, length_append, ih hletter hnext, Nat.add_assoc,
          Nat.add_sub_of_le (Nat.le_add_right_of_le (by decide))]
      · rw [ih hletter hnext]
        exact (wordFrom_iff_of_not (Nat.le_succ index) fun position hfrom hlt hword => hstem
          ((Nat.le_antisymm hfrom (Nat.le_of_lt_succ hlt)) ▸ hword.stem)).symm

theorem not_wordFrom_of_index (hnone : indexRevert (message.drop index) = none) :
    ¬ WordFrom message index := by
  rintro ⟨position, hfrom, hword⟩
  have hstem := hword.stem
  rw [← Nat.add_sub_of_le hfrom, ← drop_drop] at hstem
  have hmissed := findIdx?_eq_none_iff.1 hnone _
    ((mem_tails _ _).2 (drop_suffix (position - index) _))
  exact Bool.eq_false_iff.1 hmissed <| isPrefixOf_iff_prefix.2 hstem

theorem wordFrom_of_index {offset : ℕ} (hsome : indexRevert (message.drop index) = some offset) :
    revertStem <+: message.drop (index + offset) ∧
      (WordFrom message index ↔ WordFrom message (index + offset)) := by
  obtain ⟨hbound, hstem, hfirst⟩ := findIdx?_eq_some_iff_getElem.1 hsome
  rw [getElem_tails, isPrefixOf_iff_prefix, drop_drop] at hstem
  refine ⟨hstem, wordFrom_iff_of_not (Nat.le_add_right _ _)
    fun position hfrom hlt hword => ?_⟩
  have hmissed := hfirst (position - index) (by omega)
  rw [getElem_tails, isPrefixOf_iff_prefix, drop_drop,
    Nat.add_sub_of_le hfrom] at hmissed
  exact hmissed hword.stem

theorem revertWordLoop_ends (hindex : index ≤ message.length)
    (hrounds : message.length < rounds + index) :
    ∃ answer, revertWordLoop message rounds index = some answer ∧
      (answer = true ↔ WordFrom message index) := by
  induction rounds generalizing index with
  | zero => omega
  | succ rounds ih =>
    rw [revertWordLoop]
    rcases hmatch : indexRevert (message.drop index) with _ | offset
    · exact ⟨false, rfl, by simp [not_wordFrom_of_index hmatch]⟩
    · obtain ⟨hstem, hfrom⟩ := wordFrom_of_index hmatch
      rw [hfrom]
      dsimp only
      split_ifs with haccepted
      · exact ⟨true, rfl, iff_of_true rfl ⟨_, le_rfl, (wordAt_of_stem hstem).2 haccepted⟩⟩
      · have hletters : (lettersAt message (index + offset)).length ≤
            (message.drop (index + offset)).length := IsPrefix.length_le <| takeWhile_prefix _
        rw [wordFrom_behind (mt (wordAt_of_stem hstem).1 haccepted)]
        rw [lettersAt_of_stem hstem, length_append] at hletters ⊢
        rw [length_drop, revertStem_length] at hletters
        rw [← Nat.add_assoc]
        exact ih (by rw [revertStem_length]; omega) (by rw [revertStem_length]; omega)

/-- `containsRevertWord` ends on every message, and it finds "revert" and
"reverted" exactly where they stand as words of their own. -/
theorem revert_word_found (message : List Char) :
    revertWordLoop message (message.length + 1) 0 = some (containsRevertWord message) ∧
      (containsRevertWord message = true ↔ ∃ position,
        ∃ word ∈ ["revert".toList, "reverted".toList], StandsAlone message word position) := by
  have hscan : containsRevertWord message = true ↔ WordFrom message 0 :=
    scanRevertWord_iff (by simp) rfl
  obtain ⟨answer, hloop, hanswer⟩ := revertWordLoop_ends (Nat.zero_le message.length)
    (Nat.lt_succ_self _)
  refine ⟨?_, ?_⟩
  · rw [hloop, Option.some_inj, Bool.eq_iff_iff, hanswer, hscan]
  · rw [hscan]
    exact ⟨fun ⟨position, _, hword⟩ => ⟨position, hword⟩,
      fun ⟨position, hword⟩ => ⟨position, Nat.zero_le _, hword⟩⟩

/-! ## Reverts -/

def isHexDigit (char : Char) : Bool := ('0' ≤ char && char ≤ '9') || ('a' ≤ char && char ≤ 'f') ||
    ('A' ≤ char && char ≤ 'F')

/-- `canonicalRevertData`: a hex string with at least one byte, or a non-empty
byte slice. -/
def canonicalRevertData (chain : ErrorChain) : Option String :=
  match chain.errorData with
  | none => none
  | some (.text payload) =>
    let normalized := toLower (trimSpace payload.toList)
    let body := normalized.drop 2
    if normalized.length ≤ 2 ∨ ¬ "0x".toList.isPrefixOf normalized then none
    else if body.length % 2 ≠ 0 ∨ ¬ body.all isHexDigit then none
    else some (String.ofList normalized)
  | some (.bytes payload) =>
    if payload = [] then none
    else some ("0x" ++ FixedBytes.hexBytes payload)
  | some .other => none

/-- `revertEvidence`. -/
def revertEvidence (chain : ErrorChain) : Bool :=
  match chain.rpcError with
  | none => false
  | some node =>
    if node.code = some 3 then true
    else
      let message := toLower node.text.toList
      if containsRevertWord message then true
      else if contains message "vm execution error" then
        (canonicalRevertData chain).isSome
      else false

def isDeterministicRevert (chain : ErrorChain) : Bool := revertEvidence chain

/-- `revertFingerprint`: the canonical data where there is some, the message
otherwise. -/
def revertFingerprint (chain : ErrorChain) : String :=
  match canonicalRevertData chain with
  | some data => "rd:" ++ data
  | none =>
    match chain.rpcError with
    | some node =>
      "rm:" ++ String.ofList (toLower (trimSpace node.text.toList))
    | none =>
      "rm:" ++ String.ofList (toLower (trimSpace chain.text.toList))

section Wrapped

variable (index : ℕ) (operation : String) (cause : ErrorChain)

@[simp]
theorem rpcError_wrapped : (wrapProviderOperationError index operation cause).rpcError =
      cause.rpcError := rfl

@[simp]
theorem errorData_wrapped : (wrapProviderOperationError index operation cause).errorData =
      cause.errorData := rfl

@[simp]
theorem canonicalRevertData_wrapped :
    canonicalRevertData (wrapProviderOperationError index operation cause) =
      canonicalRevertData cause := rfl

theorem revertFingerprint_wrapped (hrevert : isDeterministicRevert cause) :
    revertFingerprint (wrapProviderOperationError index operation cause) =
      revertFingerprint cause := by
  unfold revertFingerprint
  rw [canonicalRevertData_wrapped, rpcError_wrapped]
  split
  · rfl
  · rcases hrpc : cause.rpcError with _ | node
    · rw [isDeterministicRevert, revertEvidence, hrpc] at hrevert
      cases hrevert
    · rfl

end Wrapped

end Lazier.Quorum
