import Mathlib.Data.List.Chain
import Scaffold.Proofs.Lowering

/-! The words of a name are the same in all its spellings. Every spelling parts a name where a capital begins
a word and at the characters that are no letters, so the snake spelling is read off the words of a name alone:
it is its own snake spelling, and the kebab, title and studly spellings of a name lead back to it. -/
namespace Scaffold.Identifier

open Text

variable {mark c : Char} {cs more word : List Char} {pieces : List (List Char)} {name : String}

/-- A character between the words of a name. -/
def isGap (c : Char) : Bool :=
  !isLetter c

private theorem isGap_eq_false_iff : isGap c = false ↔ isLetter c = true := by
  rw [isGap, Bool.not_eq_false']

/-- The words of a name, in the case they came in. -/
def wordsOf (cs : List Char) : List (List Char) :=
  words isGap (splitHumps (splitAcronyms cs))

private theorem mem_wordsOf (member : word ∈ wordsOf cs) :
    word ≠ [] ∧ ∀ c ∈ word, isLetter c = true ∧ c ∈ cs := by
  obtain ⟨filled, letters⟩ := mem_words member
  refine ⟨filled, fun c among => ?_⟩
  obtain ⟨solid, inside⟩ := letters c among
  have letter := isGap_eq_false_iff.mp solid
  have other := (isLetter_iff.mp letter).2
  exact ⟨letter, (mem_splitAcronyms other).mp ((mem_splitHumps other).mp inside)⟩

private theorem underscored_eq : underscored cs = ['_'].intercalate (wordsOf cs) := by
  have gaps : (fun c => !isWord c || c == '_') = isGap := by
    funext c
    rw [isGap, isLetter, Bool.not_and, bne, Bool.not_not]
  have marked : ('_' == '_') = true := beq_self_eq_true '_'
  unfold underscored
  dsimp only
  rw [@stripBy_collapse (· == '_') '_' _ marked, @words_collapse (· == '_') '_' _ _ marked, gaps, wordsOf]

/-- The snake spelling is the lower-cased words of a name, one underscore between each two. -/
theorem snakeChars_eq : snakeChars cs = ['_'].intercalate ((wordsOf cs).map lowerChars) := by
  have isWall : IsWall '_' := by decide +kernel
  rw [snakeChars, underscored_eq, lowerChars_intercalate isWall]

/-! ## Words in lower case -/

/-- A word that lower-casing leaves as it is. -/
structure IsLowWord (word : List Char) : Prop where
  filled : word ≠ []
  letters : ∀ c ∈ word, isLetter c = true
  lowered : ∀ c ∈ word, Lowered c

private theorem isLowWord_of_mem (dotless : 'İ' ∉ cs) :
    ∀ word ∈ (wordsOf cs).map lowerChars, IsLowWord word := by
  intro word member
  obtain ⟨first, among, rfl⟩ := List.mem_map.mp member
  obtain ⟨filled, letters⟩ := mem_wordsOf among
  refine ⟨fun none => filled (lowerChars_eq_nil_iff.mp none), ?_, fun c => lowered_of_mem_lowerChars⟩
  exact isLetter_of_mem_lowerChars (fun inside => dotless (letters _ inside).2)
    fun c inside => (letters c inside).1

theorem IsLowWord.other (low : IsLowWord word) (gap : isGap mark = true) : mark ∉ word := by
  intro member
  rw [isGap, low.letters mark member] at gap
  cases gap

/-! ## Capitals behind gaps -/

/-- No capital stands right behind a letter. -/
def Seamless (cs : List Char) : Prop :=
  cs.IsChain fun x y => isCapital y = true → isLetter x = false

private theorem isLetter_of_isCapital (capital : isCapital c = true) : isLetter c = true := by
  refine isLetter_iff.mpr ⟨by simp [isWord, capital], ?_⟩
  rintro rfl
  revert capital
  decide

/-- Where no two capitals stand in a row there are no runs of them to part. -/
theorem splitAcronyms_of_chain
    (apart : cs.IsChain fun x y => isCapital x = true → isCapital y = false) : splitAcronyms cs = cs := by
  induction cs using splitAcronyms.induct with
  | case1 x y z rest found ih =>
    simp only [Bool.and_eq_true] at found
    have second := (List.isChain_cons_cons.mp apart).1 found.1.1
    rw [found.1.2] at second
    cases second
  | case2 x y z rest missing ih =>
    rw [splitAcronyms, if_neg missing, ih (List.isChain_cons_cons.mp apart).2]
  | case3 cs short => exact splitAcronyms_short short

private theorem isLetter_of_before (before : (isSmall c || isDigit c) = true) :
    isLetter c = true := by
  refine isLetter_iff.mpr ⟨?_, ?_⟩
  · rcases Bool.or_eq_true_iff.mp before with small | digit
    · simp [isWord, small]
    · simp [isWord, digit]
  · rintro rfl
    revert before
    decide

/-- A seamless text ends before the next word, which begins with a capital. -/
theorem splitHumps_append (seamless : Seamless cs)
    (last : ∀ c, cs.getLast? = some c → (isSmall c || isDigit c) = true)
    (next : ∃ c rest, more = c :: rest ∧ isCapital c = true) (filled : cs ≠ []) :
    splitHumps (cs ++ more) = cs ++ '_' :: splitHumps more := by
  obtain ⟨capital, others, rfl, isCapital⟩ := next
  induction cs with
  | nil => exact absurd rfl filled
  | cons x rest ih =>
    cases rest with
    | nil =>
      rw [List.singleton_append, splitHumps, last x rfl, isCapital, Bool.and_self, if_pos rfl,
        List.singleton_append]
    | cons y rest =>
      obtain ⟨here, later⟩ := List.isChain_cons_cons.mp seamless
      have plain : ¬((isSmall x || isDigit x) && Text.isCapital y) = true := by
        rw [Bool.and_eq_true]
        rintro ⟨before, capital⟩
        rw [isLetter_of_before before] at here
        cases here capital
      have onward := ih later (fun c same => last c (by simpa using same)) (List.cons_ne_nil _ _)
      rw [List.cons_append, List.cons_append] at onward ⊢
      rw [splitHumps, if_neg plain, onward]
      rfl

private theorem splitHumps_of_seamless (seamless : Seamless cs) : splitHumps cs = cs := by
  induction cs using splitHumps.induct with
  | case1 x y rest found ih =>
    rw [Bool.and_eq_true] at found
    have gap := (List.isChain_cons_cons.mp seamless).1 found.2
    rw [isLetter_of_before found.1] at gap
    cases gap
  | case2 x y rest missing ih =>
    rw [splitHumps, if_neg missing, ih (List.isChain_cons_cons.mp seamless).2]
  | case3 cs short => exact splitHumps_short short

theorem Seamless.apart (seamless : Seamless cs) :
    cs.IsChain fun x y => isCapital x = true → isCapital y = false := by
  refine seamless.imp fun x y step capital => ?_
  rw [← Bool.not_eq_true]
  intro further
  rw [isLetter_of_isCapital capital] at step
  cases step further

private theorem wordsOf_of_seamless (seamless : Seamless cs) : wordsOf cs = words isGap cs := by
  rw [wordsOf, splitAcronyms_of_chain seamless.apart, splitHumps_of_seamless seamless]

/-- A word whose capital, if it has one, is its first letter. -/
structure IsCasedWord (word : List Char) : Prop where
  filled : word ≠ []
  letters : ∀ c ∈ word, isLetter c = true
  tail : ∀ c ∈ word.tail, isCapital c = false

theorem IsLowWord.cased (low : IsLowWord word) : IsCasedWord word :=
  ⟨low.filled, low.letters, fun c member => (low.lowered c (List.mem_of_mem_tail member)).not_isCapital⟩

private theorem IsCasedWord.seamless (cased : IsCasedWord word) : Seamless word := by
  have chain : ∀ {x : Char} {rest : List Char}, (∀ c ∈ rest, isCapital c = false) → Seamless (x :: rest) := by
    intro x rest plain
    induction rest generalizing x with
    | nil => exact .singleton _
    | cons y rest ih =>
      obtain ⟨here, later⟩ := List.forall_mem_cons.mp plain
      refine List.isChain_cons_cons.mpr ⟨fun capital => ?_, ih later⟩
      rw [here] at capital
      cases capital
  obtain ⟨x, rest, rfl⟩ := List.exists_cons_of_ne_nil cased.filled
  exact chain cased.tail

private theorem seamless_intercalate (gap : isGap mark = true)
    (seamless : ∀ word ∈ pieces, Seamless word) :
    Seamless ([mark].intercalate pieces) := by
  have other : isLetter mark = false := by simpa [isGap] using gap
  have small : isCapital mark = false := by
    rw [← Bool.not_eq_true]
    intro capital
    rw [isLetter_of_isCapital capital] at other
    cases other
  induction pieces with
  | nil => exact .nil
  | cons word rest ih =>
    obtain ⟨first, later⟩ := List.forall_mem_cons.mp seamless
    rw [intercalate_cons]
    split
    · exact first
    · refine List.isChain_append.mpr ⟨first, List.isChain_cons.mpr ⟨fun _ _ _ => other, ih later⟩, ?_⟩
      rintro x - y same capital
      obtain rfl : mark = y := by simpa using same
      rw [small] at capital
      cases capital

/-- Words with gaps between them have the snake spelling that these words make. -/
theorem snakeChars_intercalate (gap : isGap mark = true) (cased : ∀ word ∈ pieces, IsCasedWord word) :
    snakeChars ([mark].intercalate pieces) = ['_'].intercalate (pieces.map lowerChars) := by
  have found : words isGap ([mark].intercalate pieces) = pieces :=
    words_intercalate gap fun word member => ⟨(cased word member).filled,
      fun c among => isGap_eq_false_iff.mpr ((cased word member).letters c among)⟩
  rw [snakeChars_eq, wordsOf_of_seamless (seamless_intercalate gap fun word member =>
    (cased word member).seamless), found]

private theorem snakeChars_of_low (gap : isGap mark = true)
    (low : ∀ word ∈ pieces, IsLowWord word) :
    snakeChars ([mark].intercalate pieces) = ['_'].intercalate pieces := by
  rw [snakeChars_intercalate gap fun word member => (low word member).cased]
  congr 1
  exact (List.map_congr_left fun word member => lowerChars_lowered (low word member).lowered).trans
    (List.map_id' _)

private theorem isGap_underscore : isGap '_' = true := by
  decide

/-! ## Snake and kebab -/

/-- The words of a name without a dotted capital, in lower case, make up its snake spelling. -/
theorem exists_low (dotless : 'İ' ∉ cs) :
    ∃ pieces, snakeChars cs = ['_'].intercalate pieces ∧ ∀ word ∈ pieces, IsLowWord word :=
  ⟨_, snakeChars_eq, isLowWord_of_mem dotless⟩

private theorem snakeChars_snakeChars (dotless : 'İ' ∉ cs) :
    snakeChars (snakeChars cs) = snakeChars cs := by
  obtain ⟨pieces, same, low⟩ := exists_low dotless
  rw [same, snakeChars_of_low isGap_underscore low]

private theorem snakeChars_kebab (dotless : 'İ' ∉ cs) :
    snakeChars ((snakeChars cs).map fun c => if c == '_' then '-' else c) = snakeChars cs := by
  obtain ⟨pieces, same, low⟩ := exists_low dotless
  have gap : isGap '-' = true := by decide +kernel
  have kept : pieces.map (List.map fun c => if c == '_' then '-' else c) = pieces := by
    refine (List.map_congr_left fun word member => ?_).trans (List.map_id' _)
    refine (List.map_congr_left fun c inside => ?_).trans (List.map_id' _)
    rw [if_neg]
    rw [beq_iff_eq]
    rintro rfl
    exact (low word member).other isGap_underscore inside
  rw [same, map_intercalate, kept]
  exact snakeChars_of_low gap low

/-- A snake spelling is made of word characters without capitals, with single underscores inside. -/
theorem snakeChars_shape (dotless : 'İ' ∉ cs) :
    Spaced '_' (snakeChars cs) ∧ ∀ c ∈ snakeChars cs, isWord c = true ∧ isCapital c = false := by
  obtain ⟨pieces, same, low⟩ := exists_low dotless
  rw [same]
  refine ⟨spaced_intercalate fun word member =>
    ⟨(low word member).filled, (low word member).other isGap_underscore⟩, fun c member => ?_⟩
  rcases mem_intercalate member with rfl | ⟨word, among, inside⟩
  · decide
  · exact ⟨(isLetter_iff.mp ((low word among).letters c inside)).1,
      ((low word among).lowered c inside).not_isCapital⟩

/-! ## Titles -/

/-- What a first letter becomes: one letter, which is lower-cased to the first one again. -/
def RaisedTo (c : Char) (form : List Char) : Prop :=
  ∃ capital ∈ form, form = [capital] ∧ isLetter capital = true ∧ (capital ≠ 'Σ' ∧ capital ≠ 'İ') ∧
    lowerLetter capital = c

instance (c : Char) (form : List Char) : Decidable (RaisedTo c form) :=
  List.decidableBEx _ form

/-- A letter of ASCII that is no capital is a small letter or a digit. -/
theorem before_of_ascii (ascii : c.toNat < 128) (letter : isLetter c = true) (plain : isCapital c = false) :
    (isSmall c || isDigit c) = true := by
  have beyond : ∀ span ∈ wordSpans, 128 ≤ span.first := by decide +kernel
  have outside : inSpans wordSpans c = false := by
    rw [inSpans, List.any_eq_false]
    intro span member inside
    have above := Nat.le_trans (beyond span member) (Span.contains_iff.mp inside).1
    omega
  obtain ⟨word, other⟩ := isLetter_iff.mp letter
  rw [isWord, plain, outside, Bool.false_or, Bool.or_false, Bool.or_eq_true_iff] at word
  exact word.resolve_right fun mark => other (beq_iff_eq.mp mark)

/-- Small letters become capitals at the beginning of a word, and digits stay. -/
theorem raisedTo_titleForm (before : (isSmall c || isDigit c) = true) : RaisedTo c (titleForm c) := by
  rcases Bool.or_eq_true_iff.mp before with small | digit
  · exact @forall_between c 'a' 'z' (fun c => RaisedTo c (titleForm c)) (by decide) small
  · exact @forall_between c '0' '9' (fun c => RaisedTo c (titleForm c)) (by decide +kernel) digit

/-- A word in lower case with another first letter that is lower-cased to its own. -/
theorem IsLowWord.raised {first : Char} {rest form : List Char} (low : IsLowWord (first :: rest))
    (raised : RaisedTo first form) :
    IsCasedWord (form ++ rest) ∧ lowerChars (form ++ rest) = first :: rest := by
  obtain ⟨capital, -, rfl, letter, simple, lowered⟩ := raised
  have later : ∀ c ∈ rest, Lowered c := fun c member => low.lowered c (.tail _ member)
  have own := @lowerAfter_lowered rest [capital] later
  refine ⟨⟨List.cons_ne_nil _ _, ?_, fun c member => (later c member).not_isCapital⟩, ?_⟩
  · exact List.forall_mem_cons.mpr ⟨letter, fun c member => low.letters c (.tail _ member)⟩
  · rw [List.singleton_append, lowerChars, lowerAfter, lowerForm_simple simple, lowered, own,
      List.singleton_append]

/-- A text of ASCII is lower-cased to one. -/
theorem ascii_of_mem_lowerChars (ascii : ∀ c ∈ cs, c.toNat < 128) :
    ∀ d ∈ lowerChars cs, d.toNat < 128 := by
  have seen : ∀ code < 128, IsSimple (Char.ofNat code) ∧
      (shifted (lowerShifts.take 1) (Char.ofNat code)).toNat < 128 := by
    unfold IsSimple
    decide
  have later : ((lowerShifts.drop 1).all fun run => Nat.ble 128 run.first) = true := by decide
  refine forall_mem_lowerAfter fun c among before after d inside => ?_
  obtain ⟨simple, below⟩ := seen c.toNat (ascii c among)
  rw [Char.ofNat_toNat] at simple below
  rw [shifted_take (ascii c among) later] at below
  rw [lowerForm_simple simple] at inside
  rw [List.mem_singleton.mp inside]
  exact below

/-- A word of ASCII in lower case gets a capital that is lower-cased to its first letter again. -/
theorem IsLowWord.capitalized (low : IsLowWord word) (ascii : ∀ c ∈ word, c.toNat < 128) :
    IsCasedWord (capitalizeChars word) ∧ lowerChars (capitalizeChars word) = word := by
  obtain ⟨c, rest, rfl⟩ := List.exists_cons_of_ne_nil low.filled
  have own : lowerAfter [c] rest = rest := lowerAfter_lowered fun d inside => low.lowered d (.tail _ inside)
  have before : (isSmall c || isDigit c) = true :=
    before_of_ascii (ascii c (.head _)) (low.letters c (.head _)) (low.lowered c (.head _)).not_isCapital
  rw [capitalizeChars, own]
  exact low.raised (raisedTo_titleForm before)

/-- The words of a spelling that joins them with underscores. -/
theorem words_of_low (low : ∀ word ∈ pieces, IsLowWord word) :
    words (· == '_') (['_'].intercalate pieces) = pieces := by
  refine words_intercalate (beq_self_eq_true '_') fun word member => ⟨(low word member).filled, ?_⟩
  intro c inside
  rw [beq_eq_false_iff_ne]
  rintro rfl
  exact (low word member).other isGap_underscore inside

/-- The title spelling of a name in ASCII holds its words with their first letters raised. -/
theorem snakeChars_title (ascii : ∀ c ∈ cs, c.toNat < 128) :
    snakeChars ([' '].intercalate ((words (· == '_') (snakeChars cs)).map capitalizeChars)) =
      snakeChars cs := by
  have dotless : 'İ' ∉ cs := fun member => absurd (ascii _ member) (by decide)
  have gap : isGap ' ' = true := by decide +kernel
  have low := isLowWord_of_mem dotless
  have raised : ∀ word ∈ (wordsOf cs).map lowerChars,
      IsCasedWord (capitalizeChars word) ∧ lowerChars (capitalizeChars word) = word := by
    intro word member
    refine (low word member).capitalized ?_
    obtain ⟨first, among, rfl⟩ := List.mem_map.mp member
    exact ascii_of_mem_lowerChars fun c inside => ascii c ((mem_wordsOf among).2 c inside).2
  have cased : ∀ word ∈ ((wordsOf cs).map lowerChars).map capitalizeChars, IsCasedWord word := by
    intro word member
    obtain ⟨low, among, rfl⟩ := List.mem_map.mp member
    exact (raised low among).1
  have back : ((wordsOf cs).map lowerChars).map (fun word => lowerChars (capitalizeChars word)) =
      (wordsOf cs).map lowerChars :=
    (List.map_congr_left fun word member => (raised word member).2).trans (List.map_id' _)
  rw [@snakeChars_eq cs, words_of_low low, snakeChars_intercalate gap cased, List.map_map]
  exact congrArg _ back

/-! ## Studly -/

/-- A small letter and at least one small letter or digit behind it. -/
def IsSegment (word : List Char) : Prop :=
  ∃ first rest, word = first :: rest ∧ isSmall first = true ∧ rest ≠ [] ∧
    ∀ c ∈ rest, (isSmall c || isDigit c) = true

/-- A capital and at least one small letter or digit behind it. -/
def IsHump (word : List Char) : Prop :=
  ∃ first rest, word = first :: rest ∧ isCapital first = true ∧ rest ≠ [] ∧
    ∀ c ∈ rest, (isSmall c || isDigit c) = true

private theorem lowered_of_before (before : (isSmall c || isDigit c) = true) : Lowered c := by
  rcases Bool.or_eq_true_iff.mp before with small | digit
  · exact @forall_between c 'a' 'z' Lowered (by decide +kernel) small
  · exact @forall_between c '0' '9' Lowered (by decide +kernel) digit

theorem IsSegment.low (segment : IsSegment word) : IsLowWord word := by
  obtain ⟨first, rest, rfl, small, -, later⟩ := segment
  have before : ∀ c ∈ first :: rest, (isSmall c || isDigit c) = true :=
    List.forall_mem_cons.mpr ⟨by rw [small, Bool.true_or], later⟩
  exact ⟨List.cons_ne_nil _ _, fun c member => isLetter_of_before (before c member),
    fun c member => lowered_of_before (before c member)⟩

/-- A segment gets a capital and is a hump, which is lower-cased to the segment again. -/
theorem IsSegment.raised (segment : IsSegment word) :
    IsHump (upperFirstChars word) ∧ IsCasedWord (upperFirstChars word) ∧
      lowerChars (upperFirstChars word) = word := by
  have low := segment.low
  obtain ⟨first, rest, rfl, small, filled, later⟩ := segment
  have form : RaisedTo first (upperForm first) ∧ (upperForm first).all isCapital = true :=
    @forall_between first 'a' 'z' (fun c => RaisedTo c (upperForm c) ∧ (upperForm c).all isCapital = true)
      (by decide) small
  refine ⟨?_, low.raised form.1⟩
  obtain ⟨⟨capital, member, same, -⟩, capitals⟩ := form
  have form : upperFirstChars (first :: rest) = capital :: rest := by
    rw [upperFirstChars, same]
    rfl
  exact ⟨capital, rest, form, List.all_eq_true.mp capitals capital member, filled, later⟩

theorem IsHump.last (hump : IsHump word) : ∀ c, word.getLast? = some c → (isSmall c || isDigit c) = true := by
  obtain ⟨first, rest, rfl, -, filled, later⟩ := hump
  intro c last
  rw [← List.singleton_append, List.getLast?_append_of_ne_nil _ filled] at last
  exact later c (List.mem_of_getLast? last)

private theorem IsHump.seamless (hump : IsHump word) : Seamless word := by
  obtain ⟨first, rest, rfl, capital, -, later⟩ := hump
  have letters : ∀ c ∈ rest, isLetter c = true := fun c member => isLetter_of_before (later c member)
  exact IsCasedWord.seamless ⟨List.cons_ne_nil _ _,
    List.forall_mem_cons.mpr ⟨isLetter_of_isCapital capital, letters⟩,
    fun c member => (lowered_of_before (later c member)).not_isCapital⟩

/-- Humps stand apart when they are parted at their capitals. -/
theorem splitHumps_flatten (humps : ∀ word ∈ pieces, IsHump word) :
    splitHumps pieces.flatten = ['_'].intercalate pieces := by
  -- No boundary is missed although a match takes two characters: humps have two characters or more.
  induction pieces with
  | nil => rfl
  | cons word rest ih =>
    obtain ⟨hump, later⟩ := List.forall_mem_cons.mp humps
    rw [List.flatten_cons, intercalate_cons]
    split
    · rename_i alone
      rw [alone, List.flatten_nil, List.append_nil, splitHumps_of_seamless hump.seamless]
    · rename_i more
      have next : ∃ c others, rest.flatten = c :: others ∧ isCapital c = true := by
        obtain ⟨second, others, rfl⟩ := List.exists_cons_of_ne_nil more
        obtain ⟨first, tail, rfl, capital, -⟩ := later second List.mem_cons_self
        exact ⟨first, tail ++ others.flatten, rfl, capital⟩
      have filled : word ≠ [] := by
        obtain ⟨first, tail, rfl, -⟩ := hump
        exact List.cons_ne_nil _ _
      rw [splitHumps_append hump.seamless hump.last next filled, ih later]

private theorem apart_flatten (humps : ∀ word ∈ pieces, IsHump word) :
    pieces.flatten.IsChain fun x y => isCapital x = true → isCapital y = false := by
  induction pieces with
  | nil => exact .nil
  | cons word rest ih =>
    obtain ⟨hump, later⟩ := List.forall_mem_cons.mp humps
    rw [List.flatten_cons]
    refine List.isChain_append.mpr ⟨hump.seamless.apart, ih later, fun x last y _ capital => ?_⟩
    have plain := (lowered_of_before (hump.last x last)).not_isCapital
    rw [plain] at capital
    cases capital

/-- The studly spelling of segments is humps, and is parted into the segments again. -/
theorem snakeChars_studly (segments : ∀ word ∈ pieces, IsSegment word) :
    snakeChars ((words isSeparator (['_'].intercalate pieces)).flatMap upperFirstChars) =
      ['_'].intercalate pieces := by
  have parts : words isSeparator (['_'].intercalate pieces) = pieces :=
    words_intercalate (by decide) fun word member =>
      ⟨(segments word member).low.filled, fun c inside =>
        not_isSeparator_of_isLetter ((segments word member).low.letters c inside)⟩
  have humps : ∀ word ∈ pieces.map upperFirstChars, IsHump word ∧ IsCasedWord word := by
    intro word member
    obtain ⟨segment, among, rfl⟩ := List.mem_map.mp member
    exact ⟨(segments segment among).raised.1, (segments segment among).raised.2.1⟩
  have found : wordsOf (pieces.map upperFirstChars).flatten = pieces.map upperFirstChars := by
    have isHump := fun word member => (humps word member).1
    rw [wordsOf, splitAcronyms_of_chain (apart_flatten isHump), splitHumps_flatten isHump]
    exact words_intercalate isGap_underscore fun word member => ⟨(humps word member).2.filled,
      fun c inside => isGap_eq_false_iff.mpr ((humps word member).2.letters c inside)⟩
  have back : (pieces.map upperFirstChars).map lowerChars = pieces := by
    rw [List.map_map]
    exact (List.map_congr_left fun word member => (segments word member).raised.2.2).trans (List.map_id' _)
  rw [parts, List.flatMap_def, snakeChars_eq, found, back]

/-- The spellings of a name keep the boundaries of its words. The snake spelling of a name without a dotted
capital is made of word characters without capitals, with single underscores inside, and is the snake spelling
of itself and of the kebab spelling; for a name in ASCII it is that of the title as well, and segments of small
letters and digits come back from their studly spelling. -/
theorem spellings_keep_words :
    (∀ name : String, 'İ' ∉ name.toList →
      snake (snake name) = snake name ∧ snake (kebab name) = snake name ∧
        Spaced '_' (snake name).toList ∧
        ∀ c ∈ (snake name).toList, isWord c = true ∧ isCapital c = false) ∧
    (∀ name : String, (∀ c ∈ name.toList, c.toNat < 128) → snake (title name) = snake name) ∧
    ∀ segments : List (List Char), (∀ segment ∈ segments, IsSegment segment) →
      snake (studly (String.ofList (['_'].intercalate segments))) =
        String.ofList (['_'].intercalate segments) := by
  refine ⟨fun name dotless => ⟨?_, ?_, ?_⟩, fun name ascii => ?_, fun segments are => ?_⟩
  · rw [snake, snake, String.toList_ofList, snakeChars_snakeChars dotless]
  · rw [snake, kebab, String.toList_ofList, snakeChars_kebab dotless, snake]
  · rw [snake, String.toList_ofList]
    exact snakeChars_shape dotless
  · rw [snake, title, String.toList_ofList, snakeChars_title ascii, snake]
  · rw [snake, studly, String.toList_ofList, String.toList_ofList, snakeChars_studly are]

/-- A run of capitals, a sigma at the end of a word and a word that is a letter and a digit. -/
theorem spellings_keep_words_sigma : 'İ' ∉ "HTTPΟΔΟΣ -x".toList ∧
    (∀ c ∈ "getHTTPResponse2 v-1".toList, c.toNat < 128) ∧
    (∀ segment ∈ ["blog".toList, "v2".toList], IsSegment segment) ∧
    (snake (snake "HTTPΟΔΟΣ -x") = snake "HTTPΟΔΟΣ -x" ∧
      snake (kebab "HTTPΟΔΟΣ -x") = snake "HTTPΟΔΟΣ -x" ∧
      Spaced '_' (snake "HTTPΟΔΟΣ -x").toList ∧
      ∀ c ∈ (snake "HTTPΟΔΟΣ -x").toList, isWord c = true ∧ isCapital c = false) ∧
    snake (title "getHTTPResponse2 v-1") = snake "getHTTPResponse2 v-1" ∧
    snake (studly (String.ofList (['_'].intercalate ["blog".toList, "v2".toList]))) =
      String.ofList (['_'].intercalate ["blog".toList, "v2".toList]) := by
  have dotless : 'İ' ∉ "HTTPΟΔΟΣ -x".toList := by decide +kernel
  have ascii : ∀ c ∈ "getHTTPResponse2 v-1".toList, c.toNat < 128 :=
    List.all_iff_forall_prop.mp (by decide +kernel)
  have segments : ∀ segment ∈ ["blog".toList, "v2".toList], IsSegment segment := by
    intro segment member
    rcases List.mem_pair.mp member with rfl | rfl
    · exact ⟨'b', ['l', 'o', 'g'], by decide +kernel, by decide, by decide, List.all_eq_true.mp (by decide)⟩
    · exact ⟨'v', ['2'], by decide +kernel, by decide, by decide, List.all_eq_true.mp (by decide)⟩
  exact ⟨dotless, ascii, segments, spellings_keep_words.1 _ dotless, spellings_keep_words.2.1 _ ascii,
    spellings_keep_words.2.2 _ segments⟩

end Scaffold.Identifier
