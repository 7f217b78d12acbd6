import Emend.Outline.Fallback
import Emend.Proofs.Document.Extent
import Emend.Proofs.Pattern.Plain

/-!
# Declarations found by their words

What a match of either pattern tells is there: from the start that is told, the text goes on with words that introduce
a declaration of the told kind, and then with the whole of the told name (`declares_of_function`, `declares_of_class`).
No place is the start of both a class and a function, so in order of their starts the declarations come strictly one
after the other (`declarations_ordered`).

Main statements:

* `takes_whole_name`: a name is taken as a whole.
* `declares_of_function`, `declares_of_class`: what the match of a pattern tells is there.
* `Tells.pairwise_start`, `start_ne_start`: no two declarations start in one place.
* `declarations_ordered`: all of it for every text.
-/

namespace Emend.Fallback

open Pattern

/-! ## What the patterns allow -/

/-- At least one blank and nothing else. -/
def IsGap (w : List Char) : Prop := w ≠ [] ∧ ∀ c ∈ w, Text.isBlank c = true

/-- The characters of a name. -/
def IsName (w : List Char) : Prop :=
  ∃ c rest, w = c :: rest ∧ startsName c = true ∧ ∀ d ∈ rest, continuesName d = true

theorem IsName.length_pos {w : List Char} (h : IsName w) : 0 < w.length := by
  obtain ⟨c, rest, rfl, -, -⟩ := h
  exact Nat.succ_pos _

/-- What may stand in front of the modifiers of a class. -/
inductive Exported : List Char → Prop where
  | no : Exported []
  | named {gap : List Char} (h : IsGap gap) : Exported ("export".toList ++ gap)
  | default {gap more : List Char} (h : IsGap gap) (hmore : IsGap more) :
    Exported ("export".toList ++ (gap ++ ("default".toList ++ more)))

/-- A modifier with the blanks behind it. -/
def IsModifier (w : List Char) : Prop := ∃ word ∈ modifiers, ∃ gap, IsGap gap ∧ w = word.toList ++ gap

/-- The texts that introduce the name of a declaration, by its kind. -/
inductive Introduces : String → List Char → Prop where
  | function {word : String} {gap : List Char} (hword : word ∈ functionWords) (hgap : IsGap gap) :
    Introduces "function" (word.toList ++ gap)
  | classLike {exported : List Char} {modified : List (List Char)} {word : String} {gap : List Char}
    (hexported : Exported exported) (hmodified : ∀ w ∈ modified, IsModifier w) (hword : word ∈ classWords)
    (hgap : IsGap gap) : Introduces (classKind word) (exported ++ (modified.flatten ++ (word.toList ++ gap)))

theorem isGap_of_allows {w : List Char} (h : blanks.Allows w) : IsGap w := by
  obtain ⟨hlength, hall⟩ := Node.forall_of_allows_one h
  exact ⟨List.ne_nil_of_length_pos hlength, hall⟩

theorem isName_of_allows {w : List Char} (h : name.Allows w) : IsName w := by
  cases h with
  | seq hfirst hrest =>
    cases hfirst with
    | one hc => exact ⟨_, _, rfl, hc, (Node.forall_of_allows_one hrest).2⟩

theorem isPlain_blanks : blanks.isPlain = true := rfl

theorem isPlain_name : name.isPlain = true := rfl

theorem isPlain_word (words : List String) : (word words).isPlain = true := by
  refine Node.isPlain_any ?_
  intro n hn
  obtain ⟨w, -, rfl⟩ := List.mem_map.mp hn
  exact Node.isPlain_ofText _

theorem mem_of_allows_word {words : List String} {w : List Char} (hne : words ≠ []) (h : (word words).Allows w) :
    ∃ v ∈ words, w = v.toList := by
  obtain ⟨n, hn, hw⟩ := Node.allows_of_any (by simpa using hne) h
  obtain ⟨v, hv, rfl⟩ := List.mem_map.mp hn
  exact ⟨v, hv, Node.eq_of_allows_ofText hw⟩

theorem cases_of_allows_optional {n : Node} {w : List Char} (h : (optional n).Allows w) : w = [] ∨ n.Allows w := by
  cases h with
  | @repeated _ _ _ _ ws hws _ hmost =>
    have hone := hmost 1 rfl
    rcases ws with _ | ⟨u, _ | ⟨v, ws⟩⟩
    · exact .inl rfl
    · have hu := hws u List.mem_cons_self
      rw [List.flatten_singleton]
      exact .inr hu
    · simp at hone

/-- The pattern of what may stand in front of the modifiers. -/
def exportPattern : Node :=
  optional (.all [.ofText "export".toList, blanks, optional (.seq (.ofText "default".toList) blanks)])

theorem isPlain_exportPattern : exportPattern.isPlain = true := by
  refine Node.isPlain_all ?_
  have hdefault : (Node.seq (.ofText "default".toList) blanks).isPlain = true :=
    Node.isPlain_seq (Node.isPlain_ofText _) rfl
  simp only [List.forall_mem_cons]
  exact ⟨Node.isPlain_ofText _, rfl, hdefault, by simp⟩

theorem exported_of_allows {w : List Char} (h : exportPattern.Allows w) : Exported w := by
  -- Nothing, `export`, or `export default`, each with blanks behind it.
  rcases cases_of_allows_optional h with rfl | hexport
  · exact .no
  · cases hexport with
    | seq hword hmore =>
      cases hmore with
      | seq hgap hmore =>
        cases hmore with
        | seq hdefault hnil =>
          cases hnil
          rw [Node.eq_of_allows_ofText hword, List.append_nil]
          rcases cases_of_allows_optional hdefault with rfl | hdefault
          · rw [List.append_nil]
            exact .named (isGap_of_allows hgap)
          · cases hdefault with
            | seq hword hmore =>
              rw [Node.eq_of_allows_ofText hword]
              exact .default (isGap_of_allows hgap) (isGap_of_allows hmore)

/-- The pattern of the modifiers. -/
def modifiersPattern : Node := many (.seq (word modifiers) blanks)

theorem isPlain_modifiersPattern : modifiersPattern.isPlain = true := by
  have hone : (Node.seq (word modifiers) blanks).isPlain = true := Node.isPlain_seq (isPlain_word _) rfl
  exact hone

theorem modified_of_allows {w : List Char} (h : modifiersPattern.Allows w) :
    ∃ modified : List (List Char), (∀ u ∈ modified, IsModifier u) ∧ w = modified.flatten := by
  cases h with
  | @repeated _ _ _ _ ws hws _ _ =>
    refine ⟨ws, ?_, rfl⟩
    intro u hu
    cases hws u hu with
    | seq hword hgap =>
      obtain ⟨v, hv, rfl⟩ := mem_of_allows_word (by decide) hword
      exact ⟨v, hv, _, isGap_of_allows hgap, rfl⟩

/-! ## What a match tells -/

/-- A declaration stands in a text at an offset: words that introduce it, its name, and something that does not make
the name longer. -/
structure Declares (text : List Char) (n : Nat) (head : List Char) (d : Declaration) (rest : List Char) : Prop where
  start : d.start = n
  line : d.startLine = (text.take n).count '\n'
  stands : text.drop n = head ++ (d.name.toList ++ rest)
  introduces : Introduces d.kind head
  isName : IsName d.name.toList
  whole : ∀ c ∈ rest.head?, continuesName c = false

/-- What a group has captured is told as the text that stands there. -/
theorem captured_eq {text w : List Char} {s : Cursor} {group i : Nat}
    (hcapture : s.capture? group = some (i, i + w.length)) (hw : w <+: text.drop i) :
    captured text s group = String.ofList w := by
  rw [captured, hcapture]
  simp only [Nat.add_sub_cancel_left]
  rw [← List.prefix_iff_eq_take.mp hw]

/-- The character behind a part of a text is the first one of what follows. -/
theorem getElem?_behind {text u v : List Char} {n : Nat} (h : text.drop n = u ++ v) :
    text[n + u.length]? = v.head? := by
  rw [← List.getElem?_drop, h, List.getElem?_append_right (Nat.le_refl _), Nat.sub_self, List.head?_eq_getElem?]

theorem declares_of_captures {text : List Char} {kind : String} {nameGroup n : Nat} {s : Cursor}
    {head w rest : List Char} (hstart : ∃ stop, s.capture? 1 = some (n, stop))
    (hname : captured text s nameGroup = String.ofList w) (hstands : text.drop n = head ++ (w ++ rest))
    (hintroduces : Introduces kind head) (hw : IsName w) (hwhole : ∀ c ∈ rest.head?, continuesName c = false) :
    Declares text n head (declaration text kind nameGroup s) rest := by
  obtain ⟨stop, hcapture⟩ := hstart
  have htext : (declaration text kind nameGroup s).name.toList = w := by
    rw [declaration, hname, String.toList_ofList]
  -- The start is that of the first group, and the name is the text of the group of the name.
  refine ⟨?_, ?_, ?_, hintroduces, ?_, hwhole⟩
  · simp [declaration, hcapture]
  · simp [declaration, hcapture]
  · rw [htext, hstands]
  · rwa [htext]

/-- No blank makes a name longer. -/
theorem continuesName_of_isBlank {c : Char} (h : Text.isBlank c = true) : continuesName c = false := by
  have hall : ∀ n ∈ List.range' 9 5 ++ List.range' 28 5 ++ [0x85, 0xA0, 0x1680] ++ List.range' 0x2000 11
      ++ [0x2028, 0x2029, 0x202F, 0x205F, 0x3000], continuesName (Char.ofNat n) = false := by
    decide +kernel
  rw [← Char.ofNat_toNat c]
  refine hall _ ?_
  simp [Text.isBlank] at h
  simp only [List.mem_append, List.mem_range'_1, List.mem_cons, List.not_mem_nil, or_false]
  omega

/-! ## Functions -/

/-- The pattern of what stands behind the name of a function. -/
def openingPattern : Node := .all [optionalBlanks, .one (· == '(')]

theorem isPlain_openingPattern : openingPattern.isPlain = true := rfl

/-- What stands behind the name of a function does not make the name longer. -/
theorem continuesName_of_allows_opening {w : List Char} (h : openingPattern.Allows w) :
    ∃ c rest, w = c :: rest ∧ continuesName c = false := by
  -- A blank if there are any, else the parenthesis.
  cases h with
  | @seq _ _ gap _ hgap hmore =>
    cases hmore with
    | seq hopen hnil =>
      cases hopen with
      | one hc =>
        have hblank := (Node.forall_of_allows_one hgap).2
        rcases gap with _ | ⟨c, gap⟩
        · obtain rfl := beq_iff_eq.mp hc
          exact ⟨'(', _, rfl, by decide +kernel⟩
        · exact ⟨c, _, rfl, continuesName_of_isBlank (hblank c List.mem_cons_self)⟩

/-- A match of a function tells a function. -/
theorem declares_of_function {text : List Char} {a : Nat} {moving : Bool} {s : Cursor}
    (h : matchAt functionPattern text.toArray a moving = some s) :
    ∃ n head rest, Declares text n head (declaration text "function" 2 s) rest ∧ a ≤ n ∧ n < s.pos := by
  have hpattern : functionPattern = .seq boundary
      (.seq (.group 1 (.seq (word functionWords) (.seq blanks (.seq (.group 2 name) .empty)))) openingPattern) := rfl
  rw [matchAt, hpattern] at h
  simp only [Node.run, boundary] at h
  split at h
  -- The pattern has no choice but how far its blanks go, so its parts can be read off one behind the other.
  · obtain ⟨_, hw, hwstands, h⟩ := takes_of_run (isPlain_word _) h
    obtain ⟨gap, hgap, hgapstands, h⟩ := takes_of_run isPlain_blanks h
    obtain ⟨w, hname, hnamestands, h⟩ := takes_of_run isPlain_name h
    obtain ⟨opening, hopening, hopeningstands, h⟩ := takes_of_run isPlain_openingPattern h
    obtain ⟨v, hv, rfl⟩ := mem_of_allows_word (by decide) hw
    obtain ⟨c, more, rfl, hc⟩ := continuesName_of_allows_opening hopening
    simp only at h
    split at h
    · simp at h
    · obtain rfl := Option.some.inj h
      -- The parts stand one behind the other in the text, from the boundary on.
      simp only [Cursor.advance_pos, Cursor.mark_pos] at hwstands hgapstands hnamestands hopeningstands
      obtain ⟨behind, hbehind⟩ := prefix_drop_append hwstands
        (prefix_drop_append hgapstands (prefix_drop_append hnamestands hopeningstands))
      have hname' := isName_of_allows hname
      refine ⟨a, v.toList ++ gap, c :: (more ++ behind), declares_of_captures ?_ (captured_eq ?_ hnamestands) ?_
        (.function hv (isGap_of_allows hgap)) hname' ?_, Nat.le_refl a, ?_⟩
      · simp [Cursor.capture?, Nat.add_assoc]
      · simp [Cursor.capture?]
      · simpa using hbehind.symm
      · simpa using hc
      · have hlength := hname'.length_pos
        simp only [Cursor.advance_pos, Cursor.mark_pos]
        omega
  · simp at h

/-! ## Classes -/

/-- The whole of a name is taken where what follows always succeeds. -/
theorem takes_whole_name {text : Array Char} {s t : Cursor} {rest : Rest}
    (hrest : ∀ n, 0 < n → (rest (s.advance n)).isSome = true) (h : name.run text s rest = some t) :
    ∃ w, IsName w ∧ w <+: text.toList.drop s.pos ∧
      (∀ c, text[s.pos + w.length]? = some c → continuesName c = false) ∧ rest (s.advance w.length) = some t := by
  have hsplit : (Node.one startsName).run text s
      (fun u => (Node.repeated .greedy 0 none (.one continuesName)).run text u rest) = some t := h
  obtain ⟨_, hfirst, hfirststands, hmore⟩ := takes_of_run rfl hsplit
  cases hfirst with
  | @one _ c hc =>
    have hrest' : ∀ n, (rest ((s.advance 1).advance n)).isSome = true := by
      intro n
      rw [Cursor.advance_advance]
      exact hrest _ (by omega)
    -- The repetition is greedy and nothing makes it give back, so it ends where the name does.
    obtain ⟨more, hall, hmorestands, hends, ht⟩ := repeatOne_longest hrest' hmore
    rw [Cursor.advance_advance] at ht
    have hlength : (c :: more).length = 1 + more.length := Nat.add_comm _ _
    refine ⟨c :: more, ⟨c, more, rfl, hc, hall⟩, prefix_drop_append hfirststands hmorestands, ?_, ?_⟩
    · intro d hd
      refine hends d ?_
      rwa [hlength, ← Nat.add_assoc] at hd
    · rwa [hlength]

/-- The pattern of the blanks in front of a class. -/
def indentPattern : Node := .repeated .greedy 0 none (.one fun c => c == ' ' || c == '\t')

theorem isPlain_indentPattern : indentPattern.isPlain = true := rfl

/-- A match of a class tells a class, and what it has for the word of the class is one. -/
theorem declares_of_class {text : List Char} {a : Nat} {moving : Bool} {s : Cursor}
    (h : matchAt classPattern text.toArray a moving = some s) :
    captured text s 2 ∈ classWords ∧
      ∃ n head rest, Declares text n head (declaration text (classKind (captured text s 2)) 3 s) rest ∧
        a ≤ n ∧ n < s.pos := by
  have hpattern : classPattern = .seq lineStart
      (.seq indentPattern
        (.seq (.group 1 (.seq exportPattern (.seq modifiersPattern
          (.seq (.group 2 (word classWords)) (.seq blanks (.seq (.group 3 name) .empty)))))) .empty)) := rfl
  rw [matchAt, hpattern] at h
  simp only [Node.run, lineStart] at h
  split at h
  -- Part by part as for functions, but nothing follows the name, so that the name is whole because it is taken
  -- greedily.
  · obtain ⟨white, -, -, h⟩ := takes_of_run isPlain_indentPattern h
    obtain ⟨exported, hexported, hexportedstands, h⟩ := takes_of_run isPlain_exportPattern h
    obtain ⟨_, hmodified, hmodifiedstands, h⟩ := takes_of_run isPlain_modifiersPattern h
    obtain ⟨_, hw, hwstands, h⟩ := takes_of_run (isPlain_word _) h
    obtain ⟨gap, hgap, hgapstands, h⟩ := takes_of_run isPlain_blanks h
    obtain ⟨w, hname, hnamestands, hends, h⟩ := takes_whole_name (by
      intro n hn
      simp
      omega) h
    obtain ⟨modified, hall, rfl⟩ := modified_of_allows hmodified
    obtain ⟨v, hv, rfl⟩ := mem_of_allows_word (by decide) hw
    split at h
    · simp at h
    · have hs := Option.some.inj h
      simp only [Cursor.advance_pos, Cursor.mark_pos] at hexportedstands hmodifiedstands hwstands
      simp only [Cursor.advance_pos, Cursor.mark_pos] at hgapstands hnamestands hends
      obtain ⟨behind, hbehind⟩ := prefix_drop_append hexportedstands (prefix_drop_append hmodifiedstands
        (prefix_drop_append hwstands (prefix_drop_append hgapstands hnamestands)))
      -- The groups that are told lie behind the indentation: the head, its word and the name.
      have hword : captured text s 2 = v := by
        refine (captured_eq ?_ hwstands).trans String.ofList_toList
        rw [← hs]
        simp [Cursor.capture?]
      have hname' : captured text s 3 = String.ofList w := by
        refine captured_eq ?_ hnamestands
        rw [← hs]
        simp [Cursor.capture?]
      have hstands : text.drop (a + white.length)
          = exported ++ (modified.flatten ++ (v.toList ++ gap)) ++ (w ++ behind) := by
        simpa using hbehind.symm
      have hpos : a + white.length < s.pos := by
        have hlength := hname.length_pos
        rw [← hs]
        simp only [Cursor.advance_pos, Cursor.mark_pos]
        omega
      rw [hword]
      refine ⟨hv, _, _, behind, declares_of_captures ?_ hname' hstands
        (.classLike (exported_of_allows hexported) hall hv (isGap_of_allows hgap)) hname ?_,
        Nat.le_add_right a _, hpos⟩
      · rw [← hs]
        simp [Cursor.capture?, Nat.add_assoc]
      · intro c hc
        refine hends c ?_
        rw [List.getElem?_toArray, ← Option.mem_def.mp hc]
        rw [← List.append_assoc] at hstands
        rw [← getElem?_behind hstands]
        simp [Nat.add_assoc]
  · simp at h

/-! ## Both together -/

variable {text : List Char}

/-- What is told of a match of a pattern is a declaration that starts inside of the match. -/
def Tells (text : List Char) (node : Node) (tell : Cursor → Declaration) : Prop :=
  ∀ a moving s, matchAt node text.toArray a moving = some s →
    ∃ n head rest, Declares text n head (tell s) rest ∧ a ≤ n ∧ n < s.pos

/-- Matches do not reach into each other, so what is told of them starts later and later. -/
theorem Tells.pairwise_start {node : Node} {tell : Cursor → Declaration} (h : Tells text node tell) :
    ((allMatches node text).map fun m => tell m.2).Pairwise fun d e => d.start < e.start := by
  have hspans := pairwise_spans node text
  rw [spans, List.pairwise_map] at hspans
  rw [List.pairwise_map]
  refine hspans.imp_of_mem ?_
  -- Matches are apart, and each tells a start that lies inside of it.
  intro m k hm hk hprecedes
  obtain ⟨_, hmatch⟩ := (scans_allMatches node text).exists_matchAt m hm
  obtain ⟨_, hmatch'⟩ := (scans_allMatches node text).exists_matchAt k hk
  obtain ⟨n, _, _, hdeclares, -, hinside⟩ := h _ _ _ hmatch
  obtain ⟨n', _, _, hdeclares', hbehind, -⟩ := h _ _ _ hmatch'
  have hapart : m.2.pos ≤ k.1 := hprecedes.1
  rw [hdeclares.start, hdeclares'.start]
  omega

theorem Tells.exists_declares {node : Node} {tell : Cursor → Declaration} (h : Tells text node tell) :
    ∀ d ∈ (allMatches node text).map fun m => tell m.2, ∃ n head rest, Declares text n head d rest := by
  intro d hd
  obtain ⟨m, hm, rfl⟩ := List.mem_map.mp hd
  obtain ⟨_, hmatch⟩ := (scans_allMatches node text).exists_matchAt m hm
  obtain ⟨n, head, rest, hdeclares, -, -⟩ := h _ _ _ hmatch
  exact ⟨n, head, rest, hdeclares⟩

/-- No word of a class makes the kind of a function. -/
theorem classKind_ne_function : ∀ w ∈ classWords, classKind w ≠ "function" := by
  decide

/-- The words that a declaration of a kind can start with. -/
def openingWords (kind : String) : List String :=
  if kind = "function" then functionWords else "export" :: (modifiers ++ classWords)

theorem exists_openingWord {kind : String} {head : List Char} (h : Introduces kind head) :
    ∃ w ∈ openingWords kind, w.toList <+: head := by
  -- A class opens with what is there first: `export`, a modifier or its own word.
  cases h with
  | @function w gap hw _ => exact ⟨w, by simpa [openingWords] using hw, List.prefix_append _ _⟩
  | @classLike exported modified w gap hexported hmodified hw _ =>
    have hkind : openingWords (classKind w) = "export" :: (modifiers ++ classWords) :=
      if_neg (classKind_ne_function w hw)
    rw [hkind]
    cases hexported with
    | named _ => exact ⟨"export", List.mem_cons_self, by rw [List.append_assoc]; exact List.prefix_append _ _⟩
    | default _ _ => exact ⟨"export", List.mem_cons_self, by rw [List.append_assoc]; exact List.prefix_append _ _⟩
    | no =>
      rcases modified with _ | ⟨u, modified⟩
      · exact ⟨w, by simp [hw], List.prefix_append _ _⟩
      · obtain ⟨v, hv, gap, -, rfl⟩ := hmodified u List.mem_cons_self
        refine ⟨v, by simp [hv], ?_⟩
        simp only [List.nil_append, List.flatten_cons, List.append_assoc]
        exact List.prefix_append _ _

/-- No word of a function starts a word of a class, or the other way round. -/
theorem openingWords_apart : ∀ w ∈ functionWords, ∀ v ∈ "export" :: (modifiers ++ classWords),
    ¬ w.toList <+: v.toList ∧ ¬ v.toList <+: w.toList := by
  decide

/-- A class and a function do not start at one place. -/
theorem start_ne_start {d e : Declaration} {n m : Nat} {head head' rest rest' : List Char}
    (hd : Declares text n head d rest) (he : Declares text m head' e rest') (hkind : d.kind ≠ "function")
    (hkind' : e.kind = "function") : d.start ≠ e.start := by
  rw [hd.start, he.start]
  intro hsame
  obtain rfl := Int.ofNat.inj hsame
  obtain ⟨v, hv, hvhead⟩ := exists_openingWord hd.introduces
  obtain ⟨w, hw, hwhead⟩ := exists_openingWord he.introduces
  rw [openingWords, if_neg hkind] at hv
  rw [openingWords, if_pos hkind'] at hw
  have hvtext : v.toList <+: text.drop n := hd.stands ▸ hvhead.trans (List.prefix_append _ _)
  have hwtext : w.toList <+: text.drop n := he.stands ▸ hwhead.trans (List.prefix_append _ _)
  obtain ⟨hwv, hvw⟩ := openingWords_apart w hw v hv
  -- At one place one of the opening words would be a prefix of the other, and none is.
  rcases List.prefix_or_prefix_of_prefix hvtext hwtext with h | h
  · exact hvw h
  · exact hwv h

theorem Declares.lt_length {d : Declaration} {n : Nat} {head rest : List Char} (h : Declares text n head d rest) :
    n < text.length := by
  have hname := h.isName.length_pos
  have hlength := congrArg List.length h.stands
  simp only [List.length_drop, List.length_append] at hlength
  omega

/-- The line that is told of a start is the one of its position. -/
theorem Declares.line_eq {d : Declaration} {n : Nat} {head rest : List Char} (h : Declares text n head d rest) :
    ∃ p, (Document.mk text "").positionAt n = .ok p ∧ d.startLine = p.line := by
  have hle : n ≤ (Document.mk text "").length := h.lt_length.le
  refine ⟨_, Document.positionAt_eq_extent hle, ?_⟩
  rw [h.line, Position.line_extent, Position.zero, Int.zero_add, Text.countLineFeeds]

theorem tells_class (text : List Char) :
    Tells text classPattern fun s => declaration text (classKind (captured text s 2)) 3 s :=
  fun _ _ _ h => (declares_of_class h).2

theorem tells_function (text : List Char) : Tells text functionPattern fun s => declaration text "function" 2 s :=
  fun _ _ _ h => declares_of_function h

/-- The classes of a text, in the order of their matches. -/
def classes (text : List Char) : List Declaration :=
  (allMatches classPattern text).map fun m => declaration text (classKind (captured text m.2 2)) 3 m.2

/-- The functions of a text, in the order of their matches. -/
def functions (text : List Char) : List Declaration :=
  (allMatches functionPattern text).map fun m => declaration text "function" 2 m.2

theorem kind_of_mem_classes {d : Declaration} (h : d ∈ classes text) : d.kind ≠ "function" := by
  obtain ⟨m, hm, rfl⟩ := List.mem_map.mp h
  obtain ⟨_, hmatch⟩ := (scans_allMatches classPattern text).exists_matchAt m hm
  exact classKind_ne_function _ (declares_of_class hmatch).1

theorem kind_of_mem_functions {d : Declaration} (h : d ∈ functions text) : d.kind = "function" := by
  obtain ⟨m, -, rfl⟩ := List.mem_map.mp h
  rfl

theorem exists_declares {d : Declaration} (h : d ∈ classes text ++ functions text) :
    ∃ n head rest, Declares text n head d rest :=
  (List.mem_append.mp h).elim ((tells_class text).exists_declares d) ((tells_function text).exists_declares d)

/-- No two declarations start at one place. -/
theorem pairwise_start_ne (text : List Char) :
    (classes text ++ functions text).Pairwise fun d e => d.start ≠ e.start := by
  refine List.pairwise_append.mpr ⟨?_, ?_, ?_⟩
  · exact (tells_class text).pairwise_start.imp fun h => ne_of_lt h
  · exact (tells_function text).pairwise_start.imp fun h => ne_of_lt h
  · intro d hd e he
    obtain ⟨_, _, _, hdeclares⟩ := exists_declares (List.mem_append_left _ hd)
    obtain ⟨_, _, _, hdeclares'⟩ := exists_declares (List.mem_append_right _ he)
    exact start_ne_start hdeclares hdeclares' (kind_of_mem_classes hd) (kind_of_mem_functions he)

/-- Putting what starts earlier in front orders the declarations strictly, since no two start at one place. -/
theorem pairwise_declarations (text : List Char) : (declarations text).Pairwise fun d e => d.start < e.start := by
  have hsorted : (declarations text).Pairwise fun d e => decide (d.start ≤ e.start) = true := by
    refine List.pairwise_mergeSort ?_ ?_ _
    · intro d e f hde hef
      simp only [decide_eq_true_eq] at hde hef ⊢
      exact hde.trans hef
    · intro d e
      simp only [Bool.or_eq_true, decide_eq_true_eq]
      exact le_total _ _
  -- Sorted means that no start comes before an earlier one; that no two are the same makes it strict.
  have hapart : (declarations text).Pairwise fun d e => d.start ≠ e.start :=
    (List.mergeSort_perm _ _).symm.pairwise (pairwise_start_ne text) fun h => h.symm
  refine hsorted.imp₂ ?_ hapart
  intro d e hle hne
  exact lt_of_le_of_ne (of_decide_eq_true hle) hne

/-- The declarations of a text are those that the two patterns find. In their order they start strictly one after the
other, and each one stands in the text where it is told to start: on the told line, with the words that introduce it
and then its name. -/
theorem declarations_ordered (text : List Char) :
    (declarations text).Perm (classes text ++ functions text) ∧
      (declarations text).Pairwise (fun d e => d.start < e.start) ∧
      ∀ d ∈ declarations text, d.start < text.length ∧ (∃ n head rest, Declares text n head d rest) ∧
        ∃ p, (Document.mk text "").positionAt d.start = .ok p ∧ d.startLine = p.line := by
  have hperm : (declarations text).Perm (classes text ++ functions text) := List.mergeSort_perm _ _
  refine ⟨hperm, pairwise_declarations text, ?_⟩
  intro d hd
  obtain ⟨n, head, rest, hdeclares⟩ := exists_declares (hperm.mem_iff.mp hd)
  rw [hdeclares.start]
  exact ⟨Int.ofNat_lt.mpr hdeclares.lt_length, ⟨n, head, rest, hdeclares⟩, hdeclares.line_eq⟩

/-- A function inside of a struct, and the word of one inside of another word. -/
example : (classes "struct Box\n  fn put(x)\n  subfn (y)".toList ++
      functions "struct Box\n  fn put(x)\n  subfn (y)".toList).map
      (fun d => (d.kind, d.name, d.start, d.startLine)) = [("class", "Box", 0, 0), ("function", "put", 13, 1)] := by
  decide +kernel

end Emend.Fallback
