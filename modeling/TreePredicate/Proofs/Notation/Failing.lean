import TreePredicate.Proofs.Notation.Missing

/-!
# Where reading stops

The parser stops at the first thing that is wrong, behind tokens that the rules derive something from.

* `Leads` : what may stand before where it stops;
* `Conflicts`, `Broken` : a field in conflict with those before it, and a predicate that cannot be read;
* `Halts` : where the parser stops, and with which failure;
* `halts` : it stops nowhere else, by induction on the number of tokens; `parseTokens_eq_error` : the
  same for all tokens of a text.
-/

set_option autoImplicit false

namespace TreePredicate.Notation

/-! ## What is wrong with tokens -/

/-- What is expected: a predicate, or what is to come of the fields of a group, with those before
them in a draft, or of the elements of a list. -/
inductive Awaited where
  | predicate
  | fields (draft : Draft)
  | elements

/-- Tokens lead from where something is expected to where a predicate is expected that is a part of
it, nested so deep. Everything in front of that predicate is complete and conflicts with nothing. -/
inductive Leads [Room] : Awaited → List Token → Nat → Prop where
  | here : Leads .predicate [] 0
  | group {opening : Token} {ts : List Token} {depth : Nat}
      (hopening : opening.content = .sign .openBrace) (h : Leads (.fields .empty) ts depth) :
      Leads .predicate (opening :: ts) (depth + 1)
  | list {marker ts : List Token} {opening : Token} {quantifier : Quantifier} {depth : Nat}
      (hmarker : MarkerTokens marker quantifier) (hopening : opening.content = .sign .openBracket)
      (h : Leads .elements ts depth) : Leads .predicate (marker ++ opening :: ts) (depth + 1)
  | field {bang path colon ts : List Token} {negated coloned : Bool} {steps : Path} {draft : Draft}
      {depth : Nat} (hbang : SignTokens .bang bang negated) (hpath : PathTokens path steps)
      (hclosed : Closed path (colon ++ ts)) (hcolon : SignTokens .colon colon coloned)
      (h : Leads .predicate ts depth) :
      Leads (.fields draft) (bang ++ path ++ colon ++ ts) (steps.length - 1 + depth)
  | behindField {call : Draft.Call} {ts rest : List Token} {comma : Token} {draft next : Draft}
      {depth depth' : Nat} (hfield : Produces (.field call) ts depth)
      (hcall : draft.call? call = some next) (hcomma : comma.content = .sign .comma)
      (h : Leads (.fields next) rest depth') :
      Leads (.fields draft) (ts ++ comma :: rest) (max depth depth')
  | element {ts : List Token} {depth : Nat} (h : Leads .predicate ts depth) :
      Leads .elements ts depth
  | behindElement {p : Predicate} {ts rest : List Token} {comma : Token} {depth depth' : Nat}
      (hp : Produces (.predicate p) ts depth) (hcomma : comma.content = .sign .comma)
      (h : Leads .elements rest depth') : Leads .elements (ts ++ comma :: rest) (max depth depth')

/-- A field of a group, not negated, is in conflict with those before it. The first of these are in a
draft. The path of the field starts at a place of the text. -/
inductive Conflicts [Room] : Draft → List Token → Conflict → Nat → Prop where
  | here {first : Token} {path colon ts rest : List Token} {coloned : Bool} {steps : Path}
      {p : Predicate} {depth : Nat} {draft next : Draft} {conflict : Conflict}
      (hpath : PathTokens (first :: path) steps) (hclosed : Closed (first :: path) (colon ++ ts))
      (hcolon : SignTokens .colon colon coloned) (hp : Produces (.predicate p) ts depth)
      (hadd : draft.add steps p = (next, some conflict)) :
      Conflicts draft (first :: path ++ colon ++ ts ++ rest) conflict first.start
  | behind {call : Draft.Call} {ts rest : List Token} {comma : Token} {draft next : Draft}
      {depth place : Nat} {conflict : Conflict} (hfield : Produces (.field call) ts depth)
      (hcall : draft.call? call = some next) (hcomma : comma.content = .sign .comma)
      (h : Conflicts next rest conflict place) : Conflicts draft (ts ++ comma :: rest) conflict place

/-- What stands where a predicate is expected cannot be read: a pattern is refused, or two fields of a
group are in conflict. -/
inductive Broken [Room] : List Token → Failure → Prop where
  | pattern {tilde quoted : Token} {rest : List Token} {source : String} {fault : Pattern.Fault}
      (htilde : tilde.content = .sign .tilde) (hquoted : quoted.content = .quoted source)
      (hcompile : Pattern.compileAt source quoted.start = .error fault) :
      Broken (tilde :: quoted :: rest) (.pattern source fault quoted.start)
  | group {opening : Token} {ts : List Token} {conflict : Conflict} {place : Nat}
      (hopening : opening.content = .sign .openBrace) (h : Conflicts .empty ts conflict place) :
      Broken (opening :: ts) (.ambiguous conflict place)

/-- Where something is expected, reading stops with a failure. -/
inductive Halts [Room] (levels : Nat) : Awaited → List Token → Failure → Prop where
  | misses {awaited : Awaited} {ts : List Token} {failure : Failure} (h : Misses ts failure) :
      Halts levels awaited ts failure
  | within {awaited : Awaited} {before rest : List Token} {depth : Nat} {failure : Failure}
      (hleads : Leads awaited before depth) (hdepth : depth ≤ levels) (h : Broken rest failure) :
      Halts levels awaited (before ++ rest) failure
  | conflicts {draft : Draft} {ts : List Token} {conflict : Conflict} {place : Nat}
      (h : Conflicts draft ts conflict place) :
      Halts levels (.fields draft) ts (.ambiguous conflict place)

/-! ## From a part to the whole -/

section Whole

variable [Room] {levels : Nat} {ts rest others : List Token} {failure : Failure} {draft next : Draft}

theorem halts_group {opening : Token} (hopening : opening.content = .sign .openBrace)
    (h : Halts levels (.fields .empty) rest failure) :
    Halts (levels + 1) .predicate (opening :: rest) failure := by
  cases h with
  | misses h => exact .misses (h.behind_cons (by simp [hopening]))
  | within hleads hdepth h =>
    exact .within (.group hopening hleads) (Nat.succ_le_succ hdepth) h
  | conflicts h => exact .within .here (Nat.zero_le _) (.group hopening h)

theorem halts_list {marker : List Token} {opening : Token} {quantifier : Quantifier}
    (hmarker : MarkerTokens marker quantifier) (hopening : opening.content = .sign .openBracket)
    (h : Halts levels .elements rest failure) :
    Halts (levels + 1) .predicate (marker ++ opening :: rest) failure := by
  cases h with
  | misses h =>
    exact .misses ((h.behind_cons (by simp [hopening])).behind (noStop_of_markerTokens hmarker))
  | within hleads hdepth h =>
    rw [← List.cons_append, ← List.append_assoc]
    exact .within (.list hmarker hopening hleads) (Nat.succ_le_succ hdepth) h

theorem halts_field {bang path colon : List Token} {negated coloned : Bool} {steps : Path}
    (hbang : SignTokens .bang bang negated) (hpath : PathTokens path steps)
    (hclosed : Closed path (colon ++ rest)) (hcolon : SignTokens .colon colon coloned)
    (hlevels : steps.length - 1 ≤ levels)
    (h : Halts (levels - (steps.length - 1)) .predicate rest failure) :
    Halts levels (.fields draft) (bang ++ path ++ colon ++ rest) failure := by
  cases h with
  | misses h =>
    refine .misses (h.behind ?_)
    simp [noStop_of_signTokens hbang, noStop_of_pathTokens hpath, noStop_of_signTokens hcolon]
  | within hleads hdepth h =>
    rw [← List.append_assoc] at hclosed ⊢
    exact .within (.field hbang hpath hclosed.left hcolon hleads) (by omega) h

theorem halts_behindField {comma : Token}
    (hfield : Derives levels (.field draft next) ts (comma :: others))
    (hcomma : comma.isSign .comma = true) (h : Halts levels (.fields next) others failure) :
    Halts levels (.fields draft) ts failure := by
  obtain ⟨call, front, depth, rfl, hdepth, hproduces, hcall⟩ := accounted_of_derives hfield
  have hsign := (isSign_iff _ _).mp hcomma
  cases h with
  | misses h =>
    exact .misses ((h.behind_cons (ne_stop_of_isSign hcomma)).behind (noStop_of_produces hproduces))
  | within hleads hdepth' h =>
    rw [← List.cons_append, ← List.append_assoc]
    exact .within (.behindField hproduces hcall hsign hleads) (max_le hdepth hdepth') h
  | conflicts h => exact .conflicts (.behind hproduces hcall hsign h)

theorem halts_element (h : Halts levels .predicate ts failure) : Halts levels .elements ts failure := by
  cases h with
  | misses h => exact .misses h
  | within hleads hdepth h => exact .within (.element hleads) hdepth h

theorem halts_behindElement {comma : Token} {p : Predicate}
    (hp : Derives levels (.predicate p) ts (comma :: others))
    (hcomma : comma.isSign .comma = true) (h : Halts levels .elements others failure) :
    Halts levels .elements ts failure := by
  obtain ⟨front, depth, rfl, hdepth, hproduces⟩ := accounted_of_derives hp
  have hsign := (isSign_iff _ _).mp hcomma
  cases h with
  | misses h =>
    exact .misses ((h.behind_cons (ne_stop_of_isSign hcomma)).behind (noStop_of_produces hproduces))
  | within hleads hdepth' h =>
    rw [← List.cons_append, ← List.append_assoc]
    exact .within (.behindElement hproduces hsign hleads) (max_le hdepth hdepth') h

end Whole

/-! ## Where the parser stops -/

section Parser

variable [Room] {levels : Nat} {ts : List Token} {failure : Failure}

/-- Where the parser fails, reading stops. -/
structure HaltsAt (ts : List Token) : Prop where
  predicate : ∀ {levels : Nat} {failure : Failure}, predicate levels ts = .error failure →
    Halts levels .predicate ts failure
  fields : ∀ {levels : Nat} {draft : Draft} {failure : Failure},
    moreFields levels draft ts = .error failure → Halts levels (.fields draft) ts failure
  elements : ∀ {levels : Nat} {failure : Failure}, moreElements levels ts = .error failure →
    Halts levels .elements ts failure

theorem fields_eq_error (h : fields levels ts = .error failure) :
    Misses ts failure ∨ ∃ inner, levels = inner + 1 ∧ moreFields inner .empty ts = .error failure := by
  cases levels with
  | zero =>
    rw [fields] at h
    exact .inl (misses_expected h)
  | succ inner =>
    rw [fields] at h
    exact .inr ⟨inner, rfl, h⟩

theorem elements_eq_error (h : elements levels ts = .error failure) :
    Misses ts failure ∨ ∃ inner, levels = inner + 1 ∧ moreElements inner ts = .error failure := by
  cases levels with
  | zero =>
    rw [elements] at h
    exact .inl (misses_expected h)
  | succ inner =>
    rw [elements] at h
    exact .inr ⟨inner, rfl, h⟩

theorem patternOf_eq_error {source : String} {offset : Nat} (h : patternOf source offset = .error failure) :
    ∃ fault, Pattern.compileAt source offset = .error fault ∧
      failure = .pattern source fault offset := by
  unfold patternOf at h
  split at h
  · cases h
  · next fault hcompile =>
    cases h
    exact ⟨fault, hcompile, rfl⟩

omit [Room] in
theorem addField_eq_error {draft : Draft} {negated : Bool} {path : Path} {p : Predicate} {offset : Nat}
    (h : addField draft negated path p offset = .error failure) :
    negated = false ∧ ∃ next conflict, draft.add path p = (next, some conflict) ∧
      failure = .ambiguous conflict offset := by
  unfold addField at h
  split at h
  · cases h
  · next hnegated =>
    split at h
    · cases h
    · next next conflict hadd =>
      cases h
      exact ⟨Bool.eq_false_iff.mpr hnegated, next, conflict, hadd, rfl⟩

theorem halts_fieldsAt {opening : Token} {inside : List Token}
    (hopening : opening.content = .sign .openBrace) (ih : HaltsAt inside)
    (h : fields levels inside = .error failure) :
    Halts levels .predicate (opening :: inside) failure := by
  rcases fields_eq_error h with h | ⟨inner, rfl, hmore⟩
  · exact .misses (h.behind_cons (by simp [hopening]))
  · exact halts_group hopening (ih.fields hmore)

theorem halts_elementsAt {marker inside : List Token} {opening : Token} {quantifier : Quantifier}
    (hmarker : MarkerTokens marker quantifier) (hopening : opening.content = .sign .openBracket)
    (ih : HaltsAt inside) (h : elements levels inside = .error failure) :
    Halts levels .predicate (marker ++ opening :: inside) failure := by
  rcases elements_eq_error h with h | ⟨inner, rfl, hmore⟩
  · exact .misses ((h.behind_cons (by simp [hopening])).behind (noStop_of_markerTokens hmarker))
  · exact halts_list hmarker hopening (ih.elements hmore)

theorem halts_predicate (ih : ∀ us : List Token, us.length < ts.length → HaltsAt us)
    (h : predicate levels ts = .error failure) : Halts levels .predicate ts failure := by
  cases ts with
  | nil =>
    rw [predicate] at h
    exact .misses (misses_expected h)
  | cons token tail =>
    have ihtail := ih tail (Nat.lt_succ_self _)
    rw [predicate] at h
    split at h
    · cases h
    · cases h
    · next sign hcontent =>
      have hstop : token.content ≠ .stop := by simp [hcontent]
      split at h
      · next hbegins =>
        have hsign : sign = .openBrace := begins_of_eq hbegins
        exact halts_fieldsAt (hsign ▸ hcontent) ihtail (error_of_bind_pure h)
      · exact .misses ((misses_range (error_of_bind_pure h)).behind_cons hstop)
      · next source offset hbegins =>
        obtain ⟨rfl, quoted, others, rfl, hquoted, rfl⟩ := begins_of_eq hbegins
        obtain ⟨fault, hcompile, rfl⟩ := patternOf_eq_error (error_of_bind_pure h)
        exact .within .here (Nat.zero_le _) (.pattern hcontent hquoted hcompile)
      · exact .misses ((misses_comparison (error_of_bind_pure h)).behind_cons hstop)
      · next quantifier hbegins =>
        obtain ⟨hsign, rfl⟩ := begins_of_eq hbegins
        exact halts_elementsAt .none (hsign ▸ hcontent) ihtail (error_of_bind_pure h)
      · next quantifier hbegins =>
        rcases error_of_bind h with h | ⟨⟨opening, inside⟩, htake, h⟩
        · exact .misses ((misses_takeSign h).behind_cons hstop)
        · obtain ⟨hopening, others, rfl, hinside⟩ := takeSign_eq_ok htake
          have hquantifier := quantifierOf?_eq_some.mp (begins_of_eq hbegins)
          have helements := error_of_bind_pure h
          rw [hinside] at helements
          have ihothers := ih others (by simp only [List.length_cons]; omega)
          exact halts_elementsAt (.some hcontent hquantifier) ((isSign_iff _ _).mp hopening) ihothers
            helements
      · exact .misses (misses_expected h)
    · exact .misses (misses_expected h)

theorem halts_elements (ih : ∀ us : List Token, us.length < ts.length → HaltsAt us)
    (h : moreElements levels ts = .error failure) : Halts levels .elements ts failure := by
  cases ts with
  | nil =>
    rw [moreElements] at h
    exact .misses (misses_expected h)
  | cons token tail =>
    rw [moreElements] at h
    split at h
    · cases h
    · rcases error_of_bind h with h | ⟨⟨p, left, hleft⟩, hpredicate, h⟩
      · exact halts_element (halts_predicate ih h)
      · have hp := (sound _).predicate (gives_of_ok hpredicate)
        obtain ⟨front, depth, hfront, -, hproduces⟩ := accounted_of_derives hp
        have hmisses : Misses left failure → Misses (token :: tail) failure := fun hleft =>
          hfront ▸ hleft.behind (noStop_of_produces hproduces)
        dsimp only at h hp
        cases left with
        | nil => exact .misses (hmisses (misses_expected h))
        | cons separator others =>
          dsimp only at h
          split at h
          · next hcomma =>
            have ihothers := ih others (by rw [List.length_cons] at hleft; omega)
            exact halts_behindElement hp hcomma (ihothers.elements (error_of_bind_pure h))
          · split at h
            · cases h
            · exact .misses (hmisses (misses_expected h))

/-- The place of a path is that of its first token. -/
theorem conflicts_of_add {draft next : Draft} {path colon ts rest : List Token} {coloned : Bool}
    {steps : Path} {p : Predicate} {depth : Nat} {conflict : Conflict} (hpath : PathTokens path steps)
    (hclosed : Closed path (colon ++ ts)) (hcolon : SignTokens .colon colon coloned)
    (hp : Produces (.predicate p) ts depth) (hadd : draft.add steps p = (next, some conflict)) :
    Conflicts draft (path ++ colon ++ ts ++ rest) conflict (placeOf (path ++ colon ++ ts ++ rest)) := by
  obtain ⟨first, others, rfl⟩ := List.exists_cons_of_ne_nil hpath.ne_nil
  exact .here hpath hclosed hcolon hp hadd

/-- Behind its path and colon, a field is nested too deep, or its predicate is not read, or it is not
added. -/
theorem readField_eq_error {draft : Draft} (h : readField levels draft ts = .error failure) :
    ∃ negated afterBang, Skips .bang ts negated afterBang ∧ (path afterBang = .error failure ∨
      ∃ steps afterPath coloned afterColon, PathOf afterBang steps afterPath ∧
        Skips .colon afterPath coloned afterColon ∧ afterColon.length < ts.length ∧
        (Misses afterColon failure ∨ steps.length - 1 ≤ levels ∧
          (predicate (levels - (steps.length - 1)) afterColon = .error failure ∨
            ∃ p rest, Gives (predicate (levels - (steps.length - 1)) afterColon) p rest ∧
              addField draft negated steps p (placeOf afterBang) = .error failure))) := by
  unfold readField at h
  cases hbang : skipSign .bang ts with
  | mk negated afterBang =>
    rw [hbang] at h
    refine ⟨negated, afterBang, skips_of_eq hbang, ?_⟩
    rcases error_of_bind h with h | ⟨⟨steps, afterPath⟩, hpath, h⟩
    · exact .inl h
    · dsimp only at h
      cases hcolon : skipSign .colon afterPath.val with
      | mk coloned afterColon =>
        rw [hcolon] at h
        have hshorter : afterColon.val.length < ts.length :=
          Nat.lt_of_le_of_lt afterColon.property
            (Nat.lt_of_lt_of_le afterPath.property afterBang.property)
        refine .inr ⟨steps, afterPath, coloned, afterColon, path_of_gives (gives_of_ok hpath),
          skips_of_eq hcolon, hshorter, ?_⟩
        dsimp only at h
        split at h
        · rcases error_of_bind h with h | ⟨_, hdeep, -⟩
          · exact .inl (misses_expected h)
          · exact absurd hdeep expected_ne_ok
        · next hlevels =>
          refine .inr ⟨Nat.not_lt.mp hlevels, ?_⟩
          rcases error_of_bind h with h | ⟨⟨p, left⟩, hpredicate, h⟩
          · exact .inl h
          · exact .inr ⟨p, left, gives_of_ok hpredicate, error_of_bind_pure h⟩

theorem halts_readField {draft : Draft} (ih : ∀ us : List Token, us.length < ts.length → HaltsAt us)
    (h : readField levels draft ts = .error failure) : Halts levels (.fields draft) ts failure := by
  obtain ⟨negated, afterBang, hskipsBang, h⟩ := readField_eq_error h
  obtain ⟨bang, rfl, hbang⟩ := signTokens_of_skips hskipsBang
  rcases h with h | ⟨steps, afterPath, coloned, afterColon, hpathOf, hskipsColon, hshorter, h⟩
  · exact .misses ((misses_path h).behind (noStop_of_signTokens hbang))
  · obtain ⟨path, rfl, hpath, hclosed⟩ := pathTokens_of_pathOf hpathOf
    obtain ⟨colon, rfl, hcolon⟩ := signTokens_of_skips hskipsColon
    rw [← List.append_assoc, ← List.append_assoc] at ih hshorter ⊢
    rcases h with h | ⟨hlevels, h | ⟨p, rest, hgives, h⟩⟩
    · refine .misses (h.behind ?_)
      simp [noStop_of_signTokens hbang, noStop_of_pathTokens hpath, noStop_of_signTokens hcolon]
    · exact halts_field hbang hpath hclosed hcolon hlevels ((ih _ hshorter).predicate h)
    · obtain ⟨rfl, next, conflict, hadd, rfl⟩ := addField_eq_error h
      obtain ⟨front, depth, rfl, -, hp⟩ := accounted_of_derives ((sound _).predicate hgives)
      rw [← List.append_assoc] at hclosed
      cases hbang
      simp only [List.nil_append, ← List.append_assoc]
      exact .conflicts (conflicts_of_add hpath hclosed.left hcolon hp hadd)

theorem halts_fields {draft : Draft} (ih : ∀ us : List Token, us.length < ts.length → HaltsAt us)
    (h : moreFields levels draft ts = .error failure) : Halts levels (.fields draft) ts failure := by
  cases ts with
  | nil =>
    rw [moreFields] at h
    exact .misses (misses_expected h)
  | cons token tail =>
    by_cases hclosing : token.isSign .closeBrace = true
    · rw [moreFields, if_pos hclosing] at h
      cases h
    · rw [moreFields_eq hclosing] at h
      rcases error_of_bind h with h | ⟨⟨next, left, hleft⟩, hread, h⟩
      · exact halts_readField ih h
      · have hfield := derives_field (fun us _ => sound us) (gives_of_ok hread)
        obtain ⟨call, front, depth, hfront, -, hproduces, -⟩ := accounted_of_derives hfield
        have hmisses : Misses left failure → Misses (token :: tail) failure := fun hleft =>
          hfront ▸ hleft.behind (noStop_of_produces hproduces)
        dsimp only at h hfield
        cases left with
        | nil =>
          rw [behindField] at h
          exact .misses (hmisses (misses_expected h))
        | cons separator others =>
          rw [behindField] at h
          split at h
          · next hcomma =>
            cases hmore : moreFields levels next others with
            | ok parsed =>
              rw [hmore] at h
              cases h
            | error other =>
              rw [hmore] at h
              cases h
              exact halts_behindField hfield hcomma
                ((ih others (Nat.lt_of_succ_lt hleft)).fields hmore)
          · split at h
            · cases h
            · exact .misses (hmisses (misses_expected h))

/-- The parser stops nowhere else. -/
theorem halts (ts : List Token) : HaltsAt ts := by
  induction hn : ts.length using Nat.strongRecOn generalizing ts with
  | ind n ih =>
    have ih' : ∀ us : List Token, us.length < ts.length → HaltsAt us :=
      fun us hus => ih us.length (hn ▸ hus) us rfl
    exact ⟨halts_predicate ih', halts_fields ih', halts_elements ih'⟩

/-- Reading all tokens of a text stops as reading a group does, or behind it. -/
theorem parseTokens_eq_error (h : parseTokens ts = .error failure) :
    Misses ts failure ∨ ∃ opening inside inner, ts = opening :: inside ∧
      opening.content = .sign .openBrace ∧ nestingLimit = inner + 1 ∧
      Halts inner (.fields .empty) inside failure := by
  unfold parseTokens at h
  rcases error_of_bind h with h | ⟨⟨opening, inside⟩, htake, h⟩
  · exact .inl (misses_takeSign h)
  · obtain ⟨hopening, others, rfl, hinside⟩ := takeSign_eq_ok htake
    rw [← hinside]
    rcases error_of_bind h with h | ⟨⟨draft, left⟩, hfields, h⟩
    · rcases fields_eq_error h with h | ⟨inner, hinner, hmore⟩
      · exact .inl (h.behind_cons (ne_stop_of_isSign hopening))
      · exact .inr ⟨opening, _, inner, rfl, (isSign_iff _ _).mp hopening, hinner, (halts _).fields hmore⟩
    · obtain ⟨inner, -, hmore⟩ := fields_eq_ok hfields
      obtain ⟨calls, before, closing, depth, hall, hclosing, -, hproduces, -⟩ :=
        accounted_of_derives ((sound _).fields (gives_of_ok hmore))
      dsimp only at h
      split at h
      · cases h
      · cases h
      · rw [hall]
        refine .inl ((((misses_expected h).behind_cons ?_).behind
          (noStop_of_produces hproduces)).behind_cons (ne_stop_of_isSign hopening))
        rw [hclosing]
        simp

end Parser

end TreePredicate.Notation
