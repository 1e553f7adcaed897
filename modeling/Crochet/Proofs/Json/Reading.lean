/-
# Crochet.Proofs.Json.Reading -- a printed value is read back

`tokens` lists the tokens of a value, whatever the layout.  Printing writes
them with blanks between some of them (`feed_ink`), and the pushdown machine
turns them into the value again (`foldlM_tokens`).  The numbers must be natural
ones, which is what `Plain` says; nothing else is asked of a value, not even
that its literals spell a text.
-/
import Crochet.Proofs.Json.Scanning

set_option autoImplicit false

namespace Crochet.Json

/-! ## The tokens of a value -/

mutual

/-- The tokens of a value. -/
def tokens : Json → List Token
  | null => [.null]
  | bool b => [.bool b]
  | number n => [.number n]
  | string s => [.string s]
  | array [] => [.openArray, .closeArray]
  | array (item :: items) => .openArray :: tokens item ++ itemTokens items ++ [.closeArray]
  | object [] => [.openObject, .closeObject]
  | object ((key, value) :: members) =>
    .openObject :: .string key :: .colon :: tokens value ++ memberTokens members ++ [.closeObject]

/-- The tokens of further items. -/
def itemTokens : List Json → List Token
  | [] => []
  | item :: items => .comma :: tokens item ++ itemTokens items

/-- The tokens of further members. -/
def memberTokens : List (Literal × Json) → List Token
  | [] => []
  | (key, value) :: members =>
    .comma :: .string key :: .colon :: tokens value ++ memberTokens members

end

mutual

/-- Every number of the value is a natural one. -/
def Plain : Json → Prop
  | number n => ∃ k, n = .ofNat k
  | array items => PlainItems items
  | object members => PlainMembers members
  | _ => True

/-- Every number of the items is a natural one. -/
def PlainItems : List Json → Prop
  | [] => True
  | item :: items => item.Plain ∧ PlainItems items

/-- Every number of the members is a natural one. -/
def PlainMembers : List (Literal × Json) → Prop
  | [] => True
  | (_, value) :: members => value.Plain ∧ PlainMembers members

end

/-! ## From characters to tokens -/

namespace Token

theorem feed_space {c : Char} (space : isSpace c = true) (found : List Token)
    (rest : List Char) :
    Scanner.feed ⟨.between, found⟩ (c :: rest) = Scanner.feed ⟨.between, found⟩ rest := by
  simp [feed_cons, Scanner.step?, start?, space]

theorem feed_spaces {cs : List Char} (spaces : ∀ c ∈ cs, isSpace c = true)
    (found : List Token) (rest : List Char) :
    Scanner.feed ⟨.between, found⟩ (cs ++ rest) = Scanner.feed ⟨.between, found⟩ rest := by
  induction cs with
  | nil => rfl
  | cons c cs ih =>
      rw [List.cons_append, feed_space (spaces c (by simp)),
        ih (fun d inside => spaces d (by simp [inside]))]

/-- A punctuation mark is its token, whatever follows. -/
theorem feed_mark (t : Token) {c : Char} (spelled : t.chars = [c]) (mark : punctuation? c = some t)
    (found : List Token) (rest : List Char) :
    Scanner.feed ⟨.between, found⟩ (t.chars ++ rest) =
      Scanner.feed ⟨.between, t :: found⟩ rest := by
  rw [spelled, List.singleton_append, feed_cons]
  unfold punctuation? at mark
  split at mark
  case h_7 => cases mark
  all_goals
    cases mark
    rfl

theorem chars_string (s : Literal) : (string s).chars = s.quoted := rfl

theorem chars_number (n : Number) : (number n).chars = n.chars := rfl

end Token

/-- The characters of some pieces. -/
def printed (pieces : List Ink) : List Char := pieces.flatMap Ink.chars

theorem printed_nil : printed [] = [] := rfl

theorem printed_cons (piece : Ink) (pieces : List Ink) :
    printed (piece :: pieces) = piece.chars ++ printed pieces := rfl

theorem printed_append (first second : List Ink) :
    printed (first ++ second) = printed first ++ printed second := by simp [printed]

open Token

theorem feed_lineBreak (layout : Layout) (depth : Nat) (found : List Token) (rest : List Char) :
    Scanner.feed ⟨.between, found⟩ (printed (layout.lineBreak depth) ++ rest) =
      Scanner.feed ⟨.between, found⟩ rest := by
  cases layout with
  | compact => rfl
  | indented =>
      refine feed_spaces (fun c inside => ?_) found rest
      have : c = '\n' ∨ c ∈ List.replicate (2 * depth) ' ' := by
        simpa [printed, Layout.lineBreak, Ink.chars] using inside
      rcases this with rfl | blank
      · rfl
      · rw [(List.mem_replicate.mp blank).2]
        rfl

theorem feed_colon (layout : Layout) (found : List Token) (rest : List Char) :
    Scanner.feed ⟨.between, found⟩ (printed layout.colon ++ rest) =
      Scanner.feed ⟨.between, .colon :: found⟩ rest := by
  cases layout <;> rfl

theorem closed_lineBreak (layout : Layout) (depth : Nat) {rest : List Char}
    (closed : Closed rest) : Closed (printed (layout.lineBreak depth) ++ rest) := by
  cases layout with
  | compact => exact closed
  | indented => exact closed_cons (by decide) _

theorem closed_items (layout : Layout) (depth : Nat) (items : List Json) {rest : List Char}
    (closed : Closed rest) : Closed (printed (inkItems layout depth items) ++ rest) := by
  cases items with
  | nil => exact closed
  | cons item items => exact closed_cons (by decide) _

theorem closed_members (layout : Layout) (depth : Nat) (members : List (Literal × Json))
    {rest : List Char} (closed : Closed rest) :
    Closed (printed (inkMembers layout depth members) ++ rest) := by
  cases members with
  | nil => exact closed
  | cons member members => exact closed_cons (by decide) _

theorem printed_token (t : Token) (pieces : List Ink) (rest : List Char) :
    printed (.token t :: pieces) ++ rest = t.chars ++ (printed pieces ++ rest) := by
  rw [printed_cons, List.append_assoc]
  rfl

theorem printed_append_rest (first second : List Ink) (rest : List Char) :
    printed (first ++ second) ++ rest = printed first ++ (printed second ++ rest) := by
  rw [printed_append, List.append_assoc]

mutual

/-- What is printed of a value is scanned into its tokens. -/
theorem feed_ink (layout : Layout) :
    ∀ (value : Json) (depth : Nat), value.Plain → ∀ (found : List Token) {rest : List Char},
      Closed rest → Scanner.feed ⟨.between, found⟩ (printed (ink layout depth value) ++ rest) =
        Scanner.feed ⟨.between, value.tokens.reverse ++ found⟩ rest
  | null, depth, _, found, rest, closed =>
      feed_word "null".toList (by decide) (by decide) rfl found closed
  | bool true, depth, _, found, rest, closed =>
      feed_word "true".toList (by decide) (by decide) rfl found closed
  | bool false, depth, _, found, rest, closed =>
      feed_word "false".toList (by decide) (by decide) rfl found closed
  | number n, depth, plain, found, rest, closed => by
      obtain ⟨k, rfl⟩ := by simpa only [Plain] using plain
      have digits : (Nat.toDigits 10 k).all isRunChar = true := List.all_eq_true.mpr
        fun c inside => isRunChar_of_isAsciiDigit (Text.isAsciiDigit_of_mem_toDigits inside)
      rw [ink, printed_token]
      rw [chars_number, Number.chars_ofNat]
      exact feed_word _ Nat.toDigits_ne_nil digits (ofRun?_toDigits k) found closed
  | string s, depth, _, found, rest, _ => by
      rw [ink, printed_token]
      exact feed_quoted s found rest
  | array [], depth, _, found, rest, _ => rfl
  | array (item :: items), depth, plain, found, rest, _ => by
      simp only [Plain, PlainItems] at plain
      have stop : Closed (closeArray.chars ++ rest) := closed_cons (by decide) rest
      have close := closed_lineBreak layout depth stop
      simp only [ink, tokens, List.cons_append, List.append_assoc, printed_token,
        printed_append_rest, List.nil_append, printed_nil]
      rw [feed_mark .openArray rfl rfl, feed_lineBreak,
        feed_ink layout item _ plain.1 _ (closed_items layout _ items close),
        feed_items layout items _ plain.2 _ close, feed_lineBreak]
      exact (feed_mark .closeArray rfl rfl _ rest).trans (by simp)
  | object [], depth, _, found, rest, _ => rfl
  | object ((key, value) :: members), depth, plain, found, rest, _ => by
      simp only [Plain, PlainMembers] at plain
      have stop : Closed (closeObject.chars ++ rest) := closed_cons (by decide) rest
      have close := closed_lineBreak layout depth stop
      simp only [ink, tokens, List.cons_append, List.append_assoc, printed_token,
        printed_append_rest, List.nil_append, printed_nil, chars_string]
      rw [feed_mark .openObject rfl rfl, feed_lineBreak, feed_quoted, feed_colon,
        feed_ink layout value _ plain.1 _ (closed_members layout _ members close),
        feed_members layout members _ plain.2 _ close, feed_lineBreak]
      exact (feed_mark .closeObject rfl rfl _ rest).trans (by simp)

theorem feed_items (layout : Layout) :
    ∀ (items : List Json) (depth : Nat), PlainItems items → ∀ (found : List Token)
      {rest : List Char}, Closed rest →
      Scanner.feed ⟨.between, found⟩ (printed (inkItems layout depth items) ++ rest) =
        Scanner.feed ⟨.between, (itemTokens items).reverse ++ found⟩ rest
  | [], depth, _, found, rest, _ => rfl
  | item :: items, depth, plain, found, rest, closed => by
      simp only [PlainItems] at plain
      simp only [inkItems, itemTokens, List.cons_append, List.append_assoc, printed_token,
        printed_append_rest]
      rw [feed_mark .comma rfl rfl, feed_lineBreak,
        feed_ink layout item _ plain.1 _ (closed_items layout _ items closed),
        feed_items layout items _ plain.2 _ closed]
      simp

theorem feed_members (layout : Layout) :
    ∀ (members : List (Literal × Json)) (depth : Nat), PlainMembers members →
      ∀ (found : List Token) {rest : List Char}, Closed rest →
      Scanner.feed ⟨.between, found⟩ (printed (inkMembers layout depth members) ++ rest) =
        Scanner.feed ⟨.between, (memberTokens members).reverse ++ found⟩ rest
  | [], depth, _, found, rest, _ => rfl
  | (key, value) :: members, depth, plain, found, rest, closed => by
      simp only [PlainMembers] at plain
      simp only [inkMembers, memberTokens, List.cons_append, List.append_assoc, printed_token,
        printed_append_rest, chars_string]
      rw [feed_mark .comma rfl rfl, feed_lineBreak, feed_quoted, feed_colon,
        feed_ink layout value _ plain.1 _ (closed_members layout _ members closed),
        feed_members layout members _ plain.2 _ closed]
      simp

end

/-- The text of a value is scanned into the value's tokens, in either layout. -/
theorem scan_chars (layout : Layout) {value : Json} (plain : value.Plain) :
    Token.scan (value.chars layout) = some value.tokens := by
  have fed := feed_ink layout value 0 plain [] closed_nil
  rw [List.append_nil, List.append_nil] at fed
  rw [scan_eq]
  show (Scanner.feed ⟨.between, []⟩ (printed (ink layout 0 value))).map List.reverse = _
  rw [fed]
  simp [Scanner.feed, Scanner.finish?]

/-! ## From tokens to values -/

theorem foldlM_step (state : Awaiting) (t : Token) (ts : List Token) :
    (t :: ts).foldlM Awaiting.step? state =
      (state.step? t).bind fun next => ts.foldlM Awaiting.step? next := rfl

/-- A value is the first item wherever it could be a value. -/
theorem foldlM_firstItem (value : Json) (stack : List Frame) (ts : List Token) :
    (value.tokens ++ ts).foldlM Awaiting.step? (.firstItem stack) =
      (value.tokens ++ ts).foldlM Awaiting.step? (.value (.item [] :: stack)) := by
  cases value with
  | array items => cases items <;> simp only [tokens] <;> rfl
  | object members => cases members <;> simp only [tokens] <;> rfl
  | _ => rfl

mutual

/-- The tokens of a value are read as that value. -/
theorem foldlM_tokens : ∀ (value : Json) (stack : List Frame) (ts : List Token),
    (value.tokens ++ ts).foldlM Awaiting.step? (.value stack) =
      ts.foldlM Awaiting.step? (.after value stack)
  | null, stack, ts => rfl
  | bool b, stack, ts => rfl
  | number n, stack, ts => rfl
  | string s, stack, ts => rfl
  | array [], stack, ts => rfl
  | array (item :: items), stack, ts => by
      have opened : Awaiting.step? (.value stack) .openArray = some (.firstItem stack) := rfl
      simp only [tokens, List.cons_append, List.append_assoc, List.nil_append]
      rw [foldlM_step, opened, Option.bind_some, foldlM_firstItem, foldlM_tokens item,
        foldlM_items items item [] stack ts]
      rfl
  | object [], stack, ts => rfl
  | object ((key, value) :: members), stack, ts => by
      have opened : Awaiting.step? (.value stack) .openObject = some (.firstKey stack) := rfl
      have named : Awaiting.step? (.firstKey stack) (.string key) =
          some (.colon [] key stack) := rfl
      have colon : Awaiting.step? (.colon [] key stack) .colon =
          some (.value (.member [] key :: stack)) := rfl
      simp only [tokens, List.cons_append, List.append_assoc, List.nil_append]
      rw [foldlM_step, opened, Option.bind_some, foldlM_step, named, Option.bind_some,
        foldlM_step, colon, Option.bind_some, foldlM_tokens value,
        foldlM_members members key value [] stack ts]
      rfl

/-- Further items are added behind the last one, up to the end of the array. -/
theorem foldlM_items : ∀ (items : List Json) (last : Json) (done : List Json)
    (stack : List Frame) (ts : List Token),
    (itemTokens items ++ .closeArray :: ts).foldlM Awaiting.step?
        (.after last (.item done :: stack)) =
      ts.foldlM Awaiting.step? (.after (.array (done.reverse ++ last :: items)) stack)
  | [], last, done, stack, ts => by
      rw [itemTokens, List.nil_append, ← List.reverse_cons]
      rfl
  | item :: items, last, done, stack, ts => by
      have comma : Awaiting.step? (.after last (.item done :: stack)) .comma =
          some (.value (.item (last :: done) :: stack)) := rfl
      simp only [itemTokens, List.cons_append, List.append_assoc]
      rw [foldlM_step, comma, Option.bind_some, foldlM_tokens item,
        foldlM_items items item (last :: done) stack ts]
      simp

theorem foldlM_members : ∀ (members : List (Literal × Json)) (key : Literal) (last : Json)
    (done : List (Literal × Json)) (stack : List Frame) (ts : List Token),
    (memberTokens members ++ .closeObject :: ts).foldlM Awaiting.step?
        (.after last (.member done key :: stack)) =
      ts.foldlM Awaiting.step?
        (.after (.object (done.reverse ++ (key, last) :: members)) stack)
  | [], key, last, done, stack, ts => by
      rw [memberTokens, List.nil_append, ← List.reverse_cons]
      rfl
  | (next, value) :: members, key, last, done, stack, ts => by
      have comma : Awaiting.step? (.after last (.member done key :: stack)) .comma =
          some (.key ((key, last) :: done) stack) := rfl
      have named : Awaiting.step? (.key ((key, last) :: done) stack) (.string next) =
          some (.colon ((key, last) :: done) next stack) := rfl
      have colon : Awaiting.step? (.colon ((key, last) :: done) next stack) .colon =
          some (.value (.member ((key, last) :: done) next :: stack)) := rfl
      simp only [memberTokens, List.cons_append, List.append_assoc]
      rw [foldlM_step, comma, Option.bind_some, foldlM_step, named, Option.bind_some,
        foldlM_step, colon, Option.bind_some, foldlM_tokens value,
        foldlM_members members next value ((key, last) :: done) stack ts]
      simp

end

theorem ofTokens?_tokens (value : Json) : ofTokens? value.tokens = some value := by
  have read := foldlM_tokens value [] []
  rw [List.append_nil] at read
  unfold ofTokens?
  rw [read]
  rfl

/-- **A printed value is read back**, in either layout. -/
theorem ofString?_chars (layout : Layout) {value : Json} (plain : value.Plain) :
    ofString? (String.ofList (value.chars layout)) = some value := by
  unfold ofString?
  rw [String.toList_ofList, scan_chars layout plain]
  exact ofTokens?_tokens value

theorem ofString?_compact {value : Json} (plain : value.Plain) :
    ofString? value.compact = some value := ofString?_chars .compact plain

theorem ofString?_indented {value : Json} (plain : value.Plain) :
    ofString? value.indented = some value := ofString?_chars .indented plain

end Crochet.Json
