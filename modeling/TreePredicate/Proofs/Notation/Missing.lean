import TreePredicate.Proofs.Notation.Acceptance

/-!
# Expectations that are not met

Wherever the parser expects something else than it finds, it has taken some tokens, and none of them is
the one for the end of the text.

* `NoStop` : tokens in front of the one for the end; `noStop_of_produces` : all that the rules derive is
  such;
* `notFound`, `Misses` : something is expected behind such tokens and not found;
* `misses_path`, `misses_range` : of the phrases that hold no predicates the parser fails at nothing else.
-/

set_option autoImplicit false

namespace TreePredicate.Notation

/-! ## Tokens in front of the end -/

/-- None of some tokens stands for the end of the text. -/
def NoStop (ts : List Token) : Prop := ∀ token ∈ ts, token.content ≠ .stop

section NoStop

variable {ts others : List Token} {token : Token}

@[simp]
theorem noStop_nil : NoStop [] := List.forall_mem_nil _

@[simp]
theorem noStop_cons : NoStop (token :: ts) ↔ token.content ≠ .stop ∧ NoStop ts :=
  List.forall_mem_cons

@[simp]
theorem noStop_append : NoStop (ts ++ others) ↔ NoStop ts ∧ NoStop others := List.forall_mem_append

theorem ne_stop_of_isSign {sign : Sign} (h : token.isSign sign = true) : token.content ≠ .stop := by
  rw [(isSign_iff token sign).mp h]
  simp

theorem noStop_of_indexTokens {stop : Nat} {path : Path} (h : IndexTokens stop ts path) : NoStop ts := by
  induction h with
  | none => exact noStop_nil
  | more hopening _ hindex hclosing _ ih => simp [hopening, hindex, hclosing, ih]

theorem KeyToken.ne_stop {key : String} (h : KeyToken token key) : token.content ≠ .stop := by
  cases h <;> simp [*]

theorem noStop_of_segmentTokens {path : Path} (h : SegmentTokens ts path) : NoStop ts := by
  cases h with
  | mk hkey hindices => exact noStop_cons.mpr ⟨hkey.ne_stop, noStop_of_indexTokens hindices⟩

theorem noStop_of_pathTokens {path : Path} (h : PathTokens ts path) : NoStop ts := by
  induction h with
  | last h => exact noStop_of_segmentTokens h
  | more h hpoint _ ih => simp [noStop_of_segmentTokens h, hpoint, ih]

theorem noStop_of_signTokens {sign : Sign} {found : Bool} (h : SignTokens sign ts found) :
    NoStop ts := by
  cases h <;> simp [*]

theorem noStop_of_boundTokens {found : Option (Number × Option Width)} (h : BoundTokens ts found) :
    NoStop ts := by
  cases h <;> simp [*]

theorem noStop_of_suffixTokens {closing : Token} {width? : Option Width}
    (h : SuffixTokens closing ts width?) : NoStop ts := by
  cases h <;> simp [*]

theorem noStop_of_markerTokens {quantifier : Quantifier} (h : MarkerTokens ts quantifier) :
    NoStop ts := by
  cases h <;> simp [*]

/-- The rules derive tokens in front of the end. -/
theorem noStop_of_produces [Room] {construct : Construct} {depth : Nat} (h : Produces construct ts depth) :
    NoStop ts := by
  induction h with
  | group hopening _ hclosing _ ih => simp [hopening, hclosing, ih]
  | number h => simp [h]
  | text h => simp [h]
  | nested _ ih => exact ih
  | comparison h _ hnumber => simp [h, hnumber]
  | pattern htilde hquoted _ => simp [htilde, hquoted]
  | range hopening hlower htilde hupper hclosing hsuffix _ =>
    simp [hopening, noStop_of_boundTokens hlower, htilde, noStop_of_boundTokens hupper, hclosing,
      noStop_of_suffixTokens hsuffix]
  | list hmarker hopening _ hclosing ih =>
    simp [noStop_of_markerTokens hmarker, hopening, ih, hclosing]
  | field hbang hpath _ hcolon _ ih =>
    simp [noStop_of_signTokens hbang, noStop_of_pathTokens hpath, noStop_of_signTokens hcolon, ih]
  | noFields => exact noStop_nil
  | lastField _ ih => exact ih
  | moreFields _ hcomma _ ih ihrest => simp [ih, hcomma, ihrest]
  | noElements => exact noStop_nil
  | lastElement _ ih => exact ih
  | moreElements _ hcomma _ ih ihrest => simp [ih, hcomma, ihrest]

/-- Behind tokens in front of the end there is another one. -/
theorem exists_token_of_noStop {body : List Token} {stop : Token} (hstop : stop.content = .stop)
    (h : ts ++ others = body ++ [stop]) (hts : NoStop ts) :
    ∃ token rest, others = token :: rest := by
  cases others with
  | cons token rest => exact ⟨token, rest, rfl⟩
  | nil =>
    rw [List.append_nil] at h
    refine absurd hstop (hts stop ?_)
    rw [h]
    exact List.mem_append_right _ (List.mem_singleton_self _)

end NoStop

/-! ## What is expected and not found -/

theorem error_of_bind {ε α β : Type} {x : Except ε α} {f : α → Except ε β} {e : ε}
    (h : x >>= f = .error e) : x = .error e ∨ ∃ a, x = .ok a ∧ f a = .error e := by
  cases x with
  | error other =>
    cases h
    exact .inl rfl
  | ok a => exact .inr ⟨a, rfl, h⟩

/-- What is done with a result does not fail. -/
theorem error_of_bind_pure {ε α β : Type} {x : Except ε α} {f : α → β} {e : ε}
    (h : (x >>= fun a => .ok (f a)) = .error e) : x = .error e := by
  rcases error_of_bind h with h | ⟨a, -, h⟩
  · exact h
  · cases h

/-- The failure of an expectation at some tokens. -/
def notFound (what : String) : List Token → Failure
  | [] => .grammar what "end of input" 0
  | token :: _ => .grammar what (foundText token) token.start

theorem expected_eq {α : Type} (what : String) (ts : List Token) :
    (expected what ts : Except Failure α) = .error (notFound what ts) := by
  cases ts <;> rfl

/-- Something is expected behind tokens in front of the end, and not found. -/
def Misses (ts : List Token) (failure : Failure) : Prop :=
  ∃ before after what, ts = before ++ after ∧ NoStop before ∧ failure = notFound what after

section Misses

variable {α : Type} {ts before after : List Token} {failure : Failure}

theorem Misses.behind (h : Misses after failure) (hbefore : NoStop before) :
    Misses (before ++ after) failure := by
  obtain ⟨front, rest, what, rfl, hfront, hfailure⟩ := h
  exact ⟨before ++ front, rest, what, (List.append_assoc ..).symm,
    noStop_append.mpr ⟨hbefore, hfront⟩, hfailure⟩

theorem Misses.behind_cons {token : Token} (h : Misses ts failure) (htoken : token.content ≠ .stop) :
    Misses (token :: ts) failure :=
  h.behind (noStop_cons.mpr ⟨htoken, noStop_nil⟩)

theorem misses_expected {what : String} (h : (expected what ts : Except Failure α) = .error failure) :
    Misses ts failure := by
  rw [expected_eq] at h
  exact ⟨[], ts, what, rfl, noStop_nil, (Except.error.inj h).symm⟩

theorem misses_takeSign {sign : Sign} {what : String} (h : takeSign sign what ts = .error failure) :
    Misses ts failure := by
  unfold takeSign at h
  split at h
  · exact misses_expected h
  · split at h
    · cases h
    · exact misses_expected h

theorem misses_positions {stop : Nat} (h : positions stop ts = .error failure) :
    Misses ts failure := by
  fun_induction positions stop ts with
  | case1 stop opening index closing rest hopens position hindex hclosing ih =>
    have hopening := (Bool.and_eq_true_iff.mp hopens).1
    refine (((ih (error_of_bind_pure h)).behind_cons (ne_stop_of_isSign hclosing)).behind_cons
      ?_).behind_cons (ne_stop_of_isSign hopening)
    rw [hindex]
    simp
  | case2 stop opening index closing rest hopens position hindex hclosing =>
    have hopening := (Bool.and_eq_true_iff.mp hopens).1
    refine ((misses_expected h).behind_cons ?_).behind_cons (ne_stop_of_isSign hopening)
    rw [hindex]
    simp
  | case3 stop opening index closing rest hopens =>
    exact (misses_expected h).behind_cons (ne_stop_of_isSign (Bool.and_eq_true_iff.mp hopens).1)
  | case4 => cases h
  | case5 stop opening hopens =>
    refine ((misses_expected h).behind_cons ?_).behind_cons
      (ne_stop_of_isSign (Bool.and_eq_true_iff.mp hopens).1)
    simp
  | case6 stop opening rest _ hopens =>
    exact (misses_expected h).behind_cons (ne_stop_of_isSign (Bool.and_eq_true_iff.mp hopens).1)
  | case7 => cases h
  | case8 => cases h

theorem misses_segment (h : segment ts = .error failure) : Misses ts failure := by
  unfold segment at h
  split at h
  · exact misses_expected h
  · split at h
    · exact misses_expected h
    · next hkey =>
      exact (misses_positions (error_of_bind_pure h)).behind_cons (keyOf?_eq_some.mp hkey).ne_stop

theorem misses_path (h : path ts = .error failure) : Misses ts failure := by
  fun_induction path ts with
  | case1 ts ih =>
    rcases error_of_bind h with h | ⟨⟨first, left, hleft⟩, hsegment, h⟩
    · exact misses_segment h
    · obtain ⟨token, rest, key, steps, rfl, hkey, -, hpositions⟩ := positions_of_segment hsegment
      cases left with
      | nil => cases h
      | cons point others =>
        dsimp only at h
        split at h
        · next hpoint =>
          obtain ⟨indices, hrest, hindices, -⟩ := indexTokens_of_positions hpositions
          have hothers := ih point others hleft (error_of_bind_pure h)
          have hpath := (hothers.behind_cons (ne_stop_of_isSign hpoint)).behind
            (noStop_of_indexTokens hindices)
          rw [hrest]
          exact hpath.behind_cons (keyOf?_eq_some.mp hkey).ne_stop
        · cases h

theorem misses_rangeEnd {lowerIncluded : Bool} {lower? upper? : Option (Number × Option Width)}
    (h : rangeEnd lowerIncluded lower? upper? ts = .error failure) : Misses ts failure := by
  unfold rangeEnd at h
  split at h
  · exact misses_expected h
  · split at h
    · dsimp only at h
      split at h
      · exact misses_expected h
      · cases h
    · exact misses_expected h

/-- Perhaps a number, and what is expected behind it. -/
theorem misses_of_number? {found : Option (Number × Option Width)}
    {left : { rest : List Token // rest.length ≤ ts.length }} (h : number? ts = (found, left))
    (hleft : Misses left.val failure) : Misses ts failure := by
  have hbound := bound_iff.mpr ⟨congrArg Prod.fst h, congrArg (fun x => x.2.val) h⟩
  obtain ⟨before, hts, hbefore⟩ := boundTokens_of_bound hbound
  rw [hts]
  exact hleft.behind (noStop_of_boundTokens hbefore)

theorem misses_range {lowerIncluded : Bool} (h : range lowerIncluded ts = .error failure) :
    Misses ts failure := by
  unfold range at h
  cases hlower : number? ts with
  | mk lower? afterLower =>
    rw [hlower] at h
    refine misses_of_number? hlower ?_
    rcases error_of_bind h with h | ⟨⟨tilde, afterTilde⟩, htake, h⟩
    · exact misses_takeSign h
    · obtain ⟨htilde, others, hafter, rfl⟩ := takeSign_eq_ok htake
      rw [hafter]
      refine Misses.behind_cons ?_ (ne_stop_of_isSign htilde)
      dsimp only at h
      cases hupper : number? afterTilde.val with
      | mk upper? afterUpper =>
        rw [hupper] at h
        exact misses_of_number? hupper (misses_rangeEnd (error_of_bind_pure h))

theorem misses_comparison {c : Comparison} (h : comparison c ts = .error failure) :
    Misses ts failure := by
  unfold comparison at h
  split at h
  · exact misses_expected h
  · split at h
    · cases h
    · exact misses_expected h

end Misses

end TreePredicate.Notation
