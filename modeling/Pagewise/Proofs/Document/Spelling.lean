import Pagewise.Proofs.Document.Identifier
import Pagewise.Proofs.Model.Resolution
import Pagewise.Proofs.Text.Blank

/-!
Member paths as texts. A text spells a path if it is the identifiers of the path with dots between
them, with at most one `$.` in front and with blanks around it. The texts that spell a path are the
ones that are read, each one as the path that it spells, and a path spells itself when it is
written.
-/
namespace Pagewise

namespace Path

open MemberName

/-! ### Texts -/

def joined (names : List String) : List Char := ['.'].intercalate (names.map String.toList)

/-- A text is a body with at most one `$.` in front, and blanks around both. -/
inductive Wraps (body : List Char) : List Char → Prop where
  | mk (before lead after : List Char) (blank_before : Text.Blank before)
    (at_most_one : lead = [] ∨ lead = ['$', '.']) (blank_after : Text.Blank after) :
    Wraps body (before ++ (lead ++ body) ++ after)

/-- A text spells names if they are identifiers, at least one, and it wraps them. -/
structure Spells (text : String) (names : List String) : Prop where
  nonempty : names ≠ []
  identifiers : ∀ name ∈ names, Identifier name.toList
  wraps : Wraps (joined names) text.toList

/-! ### Joining and cutting -/

theorem splitDots_eq (cs : List Char) : splitDots cs = cs.splitOn '.' := by
  fun_induction splitDots cs with
  | case1 => exact (List.splitOn_nil '.').symm
  | case2 rest ih =>
    rw [List.splitOn_cons_eq_if_modifyHead, if_pos (beq_self_eq_true '.'), ih]
  | case3 c rest not_dot none_left ih => exact absurd none_left (splitDots_ne_nil rest)
  | case4 c rest not_dot part parts is ih =>
    have different : ¬ (c == '.') = true := by simpa using not_dot
    rw [List.splitOn_cons_eq_if_modifyHead, if_neg different, ← ih, is]
    rfl

theorem splitDots_joined {names : List String} (nonempty : names ≠ [])
    (identifiers : ∀ name ∈ names, Identifier name.toList) :
    splitDots (joined names) = names.map String.toList := by
  have no_dots : ∀ cs ∈ names.map String.toList, '.' ∉ cs := by
    intro cs among
    obtain ⟨name, named, rfl⟩ := List.mem_map.1 among
    exact (identifiers name named).not_dot
  rw [splitDots_eq, joined, List.splitOn_intercalate '.' no_dots (by simpa using nonempty)]

theorem joined_of_splitDots {names : List String} {cs : List Char}
    (h : splitDots cs = names.map String.toList) : joined names = cs := by
  rw [joined, ← h, splitDots_eq, List.intercalate_splitOn]

theorem bounds_joined {names : List String} (identifiers : ∀ name ∈ names, Identifier name.toList)
    {c : Char} (among : c ∈ joined names) : 46 ≤ c.toNat ∧ c.toNat ≤ 122 := by
  induction names with
  | nil => cases among
  | cons name rest ih =>
    have first : c ∈ name.toList → 46 ≤ c.toNat ∧ c.toNat ≤ 122 := by
      intro here
      have := bounds ((identifiers name List.mem_cons_self).mem here)
      omega
    cases rest with
    | nil =>
      have alone : joined [name] = name.toList := List.intercalate_singleton
      exact first (alone ▸ among)
    | cons next rest =>
      have split : joined (name :: next :: rest) = name.toList ++ ['.'] ++ joined (next :: rest) :=
        List.intercalate_cons_cons
      rw [split, List.mem_append, List.mem_append, List.mem_singleton] at among
      rcases among with (here | rfl) | later
      · exact first here
      · decide
      · exact ih (fun name named => identifiers name (List.mem_cons_of_mem _ named)) later

/-! ### Stripping -/

theorem strip_of_led {cs rest : List Char} (led : Text.trim cs = '$' :: '.' :: rest) :
    strip cs = rest := by
  rw [strip, led]
  rfl

theorem strip_of_not_led {cs : List Char} (h : ∀ rest, Text.trim cs ≠ '$' :: '.' :: rest) :
    strip cs = Text.trim cs := by
  rw [strip]
  split
  · next rest led => exact absurd led (h rest)
  · rfl

theorem wraps_strip (cs : List Char) : Wraps (strip cs) cs := by
  obtain ⟨before, after, blank_before, blank_after, split⟩ := Text.exists_trim cs
  by_cases led : ∃ rest, Text.trim cs = '$' :: '.' :: rest
  · obtain ⟨rest, led⟩ := led
    have around : Wraps rest (before ++ (['$', '.'] ++ rest) ++ after) :=
      .mk before _ after blank_before (.inr rfl) blank_after
    rw [List.cons_append, List.cons_append, List.nil_append, ← led, ← split] at around
    rw [strip_of_led led]
    exact around
  · have plain : strip cs = Text.trim cs := strip_of_not_led fun rest is => led ⟨rest, is⟩
    have around : Wraps (Text.trim cs) (before ++ ([] ++ Text.trim cs) ++ after) :=
      .mk before [] after blank_before (.inl rfl) blank_after
    rw [List.nil_append, ← split] at around
    rw [plain]
    exact around

theorem strip_of_wraps {body cs : List Char} (h : Wraps body cs)
    (inside : ∀ c ∈ body, 46 ≤ c.toNat ∧ c.toNat ≤ 122) : strip cs = body := by
  obtain ⟨before, lead, after, blank_before, at_most_one, blank_after⟩ := h
  have solid : Text.Solid (lead ++ body) := by
    intro c among
    refine isBlank_of_bounds ?_
    rcases List.mem_append.1 among with leads | later
    · have one_of : c = '$' ∨ c = '.' := by
        rcases at_most_one with rfl | rfl
        · cases leads
        · simpa using leads
      rcases one_of with rfl | rfl <;> decide
    · have := inside c later
      omega
  have left : Text.trim (before ++ (lead ++ body) ++ after) = lead ++ body := by
    rw [Text.trim_append blank_before blank_after, Text.trim_of_solid solid]
  rcases at_most_one with rfl | rfl
  · refine (strip_of_not_led fun rest led => ?_).trans left
    have low : 46 ≤ '$'.toNat := (inside '$' (by rw [left] at led; simp_all)).1
    exact absurd low (by decide)
  · exact strip_of_led left

theorem strip_body {body cs : List Char} (h : Wraps body cs)
    (inside : ∀ c ∈ strip cs, 46 ≤ c.toNat ∧ c.toNat ≤ 122) : strip body = strip cs := by
  obtain ⟨before, lead, after, blank_before, at_most_one, blank_after⟩ := h
  have left : Text.trim (before ++ (lead ++ body) ++ after) = Text.trim (lead ++ body) :=
    Text.trim_append blank_before blank_after (lead ++ body)
  rcases at_most_one with rfl | rfl
  · rw [strip, strip, left, List.nil_append]
  · -- The body is that of the text, and what is more at its end is blank.
    have led : Text.trim (['$', '.'] ++ body) = '$' :: '.' :: Text.trimRight body := by
      have dollar : Text.isBlank '$' = false := by decide
      have dot : Text.isBlank '.' = false := by decide
      rw [List.cons_append, Text.trim_cons dollar, List.cons_append, List.nil_append,
        Text.trimRight_cons dot]
    have whole := strip_of_led (left.trans led)
    obtain ⟨after', blank_after', split⟩ := Text.exists_trimRight body
    have wrapped : Wraps (Text.trimRight body) body := by
      have around : Wraps (Text.trimRight body) ([] ++ ([] ++ Text.trimRight body) ++ after') :=
        .mk [] [] after' Text.blank_nil (.inl rfl) blank_after'
      rw [List.nil_append, List.nil_append, ← split] at around
      exact around
    rw [whole] at inside ⊢
    exact strip_of_wraps wrapped inside

/-! ### Reading -/

theorem eq_of_segments_eq {p q : Path} (h : p.segments = q.segments) : p = q := by
  cases p
  cases q
  simp_all

theorem parse_eq_ok {text : String} {p : Path} :
    parse text = .ok p ↔ splitDots (strip text.toList) = p.segments.map String.toList := by
  constructor
  · intro h
    rw [parse] at h
    split at h
    · cases h
    · split at h
      · cases h
      · obtain rfl := Except.ok.inj h
        simp [List.map_map, Function.comp_def]
  · intro cut
    have sound : (splitDots (strip text.toList)).findSome? segmentError? = none := by
      rw [cut, List.findSome?_eq_none_iff]
      intro cs among
      obtain ⟨name, named, rfl⟩ := List.mem_map.1 among
      have valid := p.valid name named
      have filled : name.toList.isEmpty = false := by
        cases held : name.toList with
        | nil => rw [held] at valid; cases valid
        | cons c cs => rfl
      rw [segmentError?, filled, valid]
      rfl
    have filled : (strip text.toList).isEmpty = false := by
      cases held : strip text.toList with
      | nil => rw [held] at sound; cases sound
      | cons c cs => rfl
    rw [parse, filled]
    simp only [Bool.false_eq_true, if_false]
    split
    · next problem found => rw [sound] at found; cases found
    · refine congrArg Except.ok (eq_of_segments_eq ?_)
      simp [cut, List.map_map, Function.comp_def]

theorem parse_eq_error (text : String) :
    (∃ p, parse text = .ok p) ∨ ∃ reason, parse text = .error (.invalidPath text reason) := by
  rw [parse]
  split
  · exact .inr ⟨_, rfl⟩
  · split
    · exact .inr ⟨_, rfl⟩
    · exact .inl ⟨_, rfl⟩

theorem identifiers (p : Path) : ∀ name ∈ p.segments, Identifier name.toList :=
  fun name named => (isValid_iff name.toList).1 (p.valid name named)

theorem strip_of_parse {text : String} {p : Path} (h : parse text = .ok p) :
    strip text.toList = joined p.segments :=
  (joined_of_splitDots (parse_eq_ok.1 h)).symm

theorem parse_iff_spells {text : String} {p : Path} :
    parse text = .ok p ↔ Spells text p.segments := by
  constructor
  · intro h
    have wraps := wraps_strip text.toList
    rw [strip_of_parse h] at wraps
    exact ⟨p.nonempty, p.identifiers, wraps⟩
  · intro h
    have left := strip_of_wraps h.wraps fun c => bounds_joined h.identifiers
    rw [parse_eq_ok, left, splitDots_joined h.nonempty h.identifiers]

theorem exists_parse_iff_spells (text : String) (names : List String) :
    (∃ p, parse text = .ok p ∧ p.segments = names) ↔ Spells text names := by
  constructor
  · intro h
    obtain ⟨p, read, same⟩ := h
    exact same ▸ parse_iff_spells.1 read
  · intro h
    have valid : ∀ name ∈ names, isValid name.toList = true :=
      fun name named => (isValid_iff name.toList).2 (h.identifiers name named)
    exact ⟨⟨names, h.nonempty, valid⟩, parse_iff_spells.2 h, rfl⟩

theorem spells_dotted (p : Path) : Spells p.dotted p.segments := by
  have text : p.dotted.toList = joined p.segments := String.toList_intercalate
  have around : Wraps (joined p.segments) ([] ++ ([] ++ joined p.segments) ++ []) :=
    .mk [] [] [] Text.blank_nil (.inl rfl) Text.blank_nil
  rw [List.append_nil, List.nil_append, List.nil_append, ← text] at around
  exact ⟨p.nonempty, p.identifiers, text ▸ around⟩

theorem parse_eq_iff {s t : String} {p q : Path} (read : parse s = .ok p)
    (read' : parse t = .ok q) : p = q ↔ ∃ body, Wraps body s.toList ∧ Wraps body t.toList := by
  constructor
  · intro same
    subst same
    exact ⟨_, (parse_iff_spells.1 read).wraps, (parse_iff_spells.1 read').wraps⟩
  · intro h
    obtain ⟨body, around, around'⟩ := h
    have inside : ∀ {text : String} {p : Path}, parse text = .ok p →
        ∀ c ∈ strip text.toList, 46 ≤ c.toNat ∧ c.toNat ≤ 122 := by
      intro text p read c among
      exact bounds_joined p.identifiers (strip_of_parse read ▸ among)
    have left : strip s.toList = strip t.toList :=
      (strip_body around (inside read)).symm.trans (strip_body around' (inside read'))
    have cut : p.segments.map String.toList = q.segments.map String.toList := by
      rw [← parse_eq_ok.1 read, left, parse_eq_ok.1 read']
    exact eq_of_segments_eq ((List.map_inj_right fun _ _ => String.toList_inj.1).1 cut)

theorem isTopLevel_iff (p : Path) : p.isTopLevel = true ↔ ∃ name, p.segments = [name] := by
  rw [isTopLevel, beq_iff_eq, List.length_eq_one_iff]

theorem member_iff {text : String} {p : Path} :
    member text = .ok p ↔ parse text = .ok p ∧ ∃ name, p.segments = [name] := by
  rw [← isTopLevel_iff]
  constructor
  · exact member_eq_ok
  · intro h
    rw [member, h.1]
    exact if_pos h.2

end Path

/-! ### Input tokens -/

namespace PagedOperation

theorem exists_make_iff {name : String} {inputToken outputToken : Path} :
    (∃ op, make name inputToken outputToken = .ok op) ↔
      ∃ single, inputToken.segments = [single] := by
  rw [← Path.isTopLevel_iff, make]
  split
  · next top => exact ⟨fun _ => top, fun _ => ⟨_, rfl⟩⟩
  · next nested =>
    constructor
    · intro h
      obtain ⟨op, made⟩ := h
      cases made
    · exact fun top => absurd top nested

theorem inputToken_of_ofPaths {name inputToken outputToken : String} {op : PagedOperation}
    (h : ofPaths name inputToken outputToken = .ok op) :
    Path.member inputToken = .ok op.inputToken := by
  obtain ⟨token, read, h⟩ := bind_eq_ok.1 h
  obtain ⟨output, _, made⟩ := bind_eq_ok.1 h
  obtain ⟨_, same, _⟩ := Model.make_eq_ok made
  subst same
  exact Path.member_iff.2 ⟨read, (Path.isTopLevel_iff _).1 op.inputToken_top⟩

theorem inputToken_of_resolve {m : Model} {operation : String} {behavior : EndBehavior}
    {op : PagedOperation} (h : m.resolve operation behavior = .ok op) :
    ∃ id trait text, m.findOperation operation = .ok id ∧ m.paginatedTrait id = .ok trait ∧
      trait.inputToken = some text ∧ Path.member text = .ok op.inputToken := by
  obtain ⟨id, _, _, _, trait, found, _, _, _, merged, bound⟩ := Model.binds_of_resolve h
  obtain ⟨text, given, read⟩ := bound.input_token
  exact ⟨id, trait, text, found, merged, given, read⟩

end PagedOperation

namespace Path

/-- The texts that are read as paths are those that spell one, as what they spell; any other text is
named in the error. Paths are read back from what they are written as, and two texts are read as one
path if they differ in blanks around it and in the `$.` only. A member is a path of one name, and
nothing else becomes the input token of an operation, however the operation is made. -/
theorem parse_spelled :
    (∀ (text : String) (names : List String),
      (∃ p, parse text = .ok p ∧ p.segments = names) ↔ Spells text names) ∧
    (∀ text : String, (¬ ∃ names, Spells text names) →
      ∃ reason, parse text = .error (.invalidPath text reason)) ∧
    (∀ p : Path, parse p.dotted = .ok p ∧ ofDocument p.toDocument = .ok p) ∧
    (∀ (s t : String) (p q : Path), parse s = .ok p → parse t = .ok q →
      (p = q ↔ ∃ body, Wraps body s.toList ∧ Wraps body t.toList)) ∧
    (∀ (text : String) (p : Path),
      member text = .ok p ↔ parse text = .ok p ∧ ∃ name, p.segments = [name]) ∧
    (∀ (name : String) (inputToken outputToken : Path),
      (∃ op, PagedOperation.make name inputToken outputToken = .ok op) ↔
        ∃ single, inputToken.segments = [single]) ∧
    (∀ (name : String) (inputToken outputToken : Path) (op : PagedOperation),
      PagedOperation.make name inputToken outputToken = .ok op → op.inputToken = inputToken) ∧
    (∀ (name inputToken outputToken : String) (op : PagedOperation),
      PagedOperation.ofPaths name inputToken outputToken = .ok op →
        member inputToken = .ok op.inputToken) ∧
    ∀ (m : Model) (operation : String) (behavior : EndBehavior) (op : PagedOperation),
      m.resolve operation behavior = .ok op →
        ∃ id trait text, m.findOperation operation = .ok id ∧ m.paginatedTrait id = .ok trait ∧
          trait.inputToken = some text ∧ member text = .ok op.inputToken := by
  refine ⟨exists_parse_iff_spells, ?_, ?_, fun _ _ _ _ => parse_eq_iff, fun _ _ => member_iff,
    fun _ _ _ => PagedOperation.exists_make_iff, fun _ _ _ _ made => (Model.make_eq_ok made).2.1,
    fun _ _ _ _ => PagedOperation.inputToken_of_ofPaths,
    fun _ _ _ _ => PagedOperation.inputToken_of_resolve⟩
  · intro text unspelled
    have not_read : ¬ ∃ p, parse text = .ok p := by
      intro h
      obtain ⟨p, read⟩ := h
      exact unspelled ⟨p.segments, parse_iff_spells.1 read⟩
    exact (parse_eq_error text).resolve_left not_read
  · intro p
    have back : parse p.dotted = .ok p := parse_iff_spells.2 p.spells_dotted
    refine ⟨back, ?_⟩
    rw [toDocument, ofDocument, back]
    rfl

theorem parse_padded :
    let next : Path := ⟨["Paging", "Next"], by decide, by decide⟩
    (parse " $.Paging.Next\n" = .ok next ∧ parse "Paging.Next" = .ok next ∧
      ∃ body, Wraps body " $.Paging.Next\n".toList ∧ Wraps body "Paging.Next".toList) ∧
    ((¬ ∃ names, Spells "$.$.Next" names) ∧
      ∃ reason, parse "$.$.Next" = .error (.invalidPath "$.$.Next" reason)) ∧
    ∃ text, member text = .ok Model.listNames.inputToken := by
  intro next
  obtain ⟨spelled, refused, _, wrapped, _, _, _, _, resolved⟩ := parse_spelled
  have padded : parse " $.Paging.Next\n" = .ok next := rfl
  have plain : parse "Paging.Next" = .ok next := rfl
  have unspelled : ¬ ∃ names, Spells "$.$.Next" names := by
    intro h
    obtain ⟨names, spells⟩ := h
    obtain ⟨p, read, _⟩ := (spelled "$.$.Next" names).2 spells
    cases read
  obtain ⟨_, _, text, _, _, _, read⟩ := resolved _ _ _ _ Model.resolve_listing
  exact ⟨⟨padded, plain, (wrapped _ _ _ _ padded plain).1 rfl⟩, ⟨unspelled, refused _ unspelled⟩,
    text, read⟩

end Path

end Pagewise
