import LoanGateway.Http.Request
import Mathlib.Data.List.Nodup

/-!
# Headers of requests

What setting a header does to the value under a name, and what the other ways to fill in a request
leave alone. Headers that are set one after the other are all kept if and only if no two of their
names have the same lowercase form.

- `Request.header?_header_self`, `Request.header?_header_of_ne`: the value under a name.
- `Request.withHeaders`: several headers.
- `Request.Keeps`: a request has lost none of some headers.
- `Request.keeps_withHeaders_iff`: when it has not.
-/

namespace LoanGateway

namespace Request

/-- A header is found under the lowercase form of its name. -/
theorem header?_header_self (r : Request) (name value : String) :
    (r.header name value).header? (Text.lowercaseString name) = some value := by
  have gone : (r.headers.filter (·.1 ≠ Text.lowercaseString name)).lookup
      (Text.lowercaseString name) = none := by
    rw [List.lookup_eq_none_iff]
    intro entry mem
    have ne : entry.1 ≠ Text.lowercaseString name := by simpa using (List.mem_filter.mp mem).2
    exact bne_iff_ne.mpr ne.symm
  show (_ ++ [_]).lookup _ = _
  rw [List.lookup_append, gone]
  simp

/-- Setting a header leaves those of other names alone. -/
theorem header?_header_of_ne (r : Request) {name value key : String}
    (h : Text.lowercaseString name ≠ key) :
    (r.header name value).header? key = r.header? key := by
  have kept (l : Headers) :
      (l.filter (·.1 ≠ Text.lowercaseString name)).lookup key = l.lookup key := by
    induction l with
    | nil => rfl
    | cons entry rest ih =>
      by_cases same : entry.1 = Text.lowercaseString name
      · have other : (key == entry.1) = false := by
          rw [same]
          exact beq_eq_false_iff_ne.mpr h.symm
        rw [List.filter_cons_of_neg (by simpa using same), ih, List.lookup_cons, other]
      · rw [List.filter_cons_of_pos (by simpa using same), List.lookup_cons, List.lookup_cons,
          ih]
  have last : [(Text.lowercaseString name, value)].lookup key = none := by
    simp [List.lookup_cons, beq_eq_false_iff_ne.mpr h.symm]
  show (_ ++ [_]).lookup key = _
  rw [List.lookup_append, kept, last, Option.or_none]
  rfl

@[simp] theorem header?_withTimeout (r : Request) (limit : Duration) (key : String) :
    (r.withTimeout limit).header? key = r.header? key := rfl

/-! ## Several headers -/

/-- Sets headers one after the other. -/
def withHeaders (r : Request) (headers : List (String × String)) : Request :=
  headers.foldl (fun r entry => r.header entry.1 entry.2) r

/-- What headers are kept as if none replaces another one. -/
def entries (headers : List (String × String)) : Headers :=
  headers.map fun entry => (Text.lowercaseString entry.1, entry.2)

/-- The headers of a request are these, each of them. -/
def Keeps (r : Request) (headers : List (String × String)) : Prop := r.headers = entries headers

variable {r : Request} {name value : String} {headers : List (String × String)}

/-- A request that has each name once still has each name once. -/
theorem nodup_header (nodup : (r.headers.map (·.1)).Nodup) :
    ((r.header name value).headers.map (·.1)).Nodup := by
  show ((_ ++ [_]).map _).Nodup
  rw [List.map_append, List.nodup_append]
  refine ⟨nodup.sublist (List.filter_sublist.map _), List.nodup_singleton _, ?_⟩
  intro kept mem last new
  obtain ⟨entry, old, rfl⟩ := List.mem_map.mp mem
  rw [List.mem_singleton.mp new]
  simpa using (List.mem_filter.mp old).2

theorem nodup_withHeaders (nodup : (r.headers.map (·.1)).Nodup) :
    ((r.withHeaders headers).headers.map (·.1)).Nodup := by
  induction headers generalizing r with
  | nil => exact nodup
  | cons first rest ih => exact ih (nodup_header nodup)

/-- A header of a new name comes behind the others. -/
theorem headers_header_of_not_mem (new : Text.lowercaseString name ∉ r.headers.map (·.1)) :
    (r.header name value).headers = r.headers ++ [(Text.lowercaseString name, value)] := by
  show r.headers.filter _ ++ _ = _
  rw [List.filter_eq_self.mpr]
  intro entry mem
  have old : entry.1 ∈ r.headers.map (·.1) := List.mem_map_of_mem mem
  have ne : entry.1 ≠ Text.lowercaseString name := fun same => new (same ▸ old)
  simpa using ne

theorem lowercase_contentType : Text.lowercaseString "content-type" = "content-type" := by
  decide +kernel

/-- A JSON body brings its content type along. -/
theorem headers_withJson {body : Json} (new : "content-type" ∉ r.headers.map (·.1)) :
    (r.withJson body).headers = r.headers ++ [("content-type", "application/json")] := by
  rw [← lowercase_contentType] at new ⊢
  exact headers_header_of_not_mem (r := { r with body := some body.text }) new

/-- Headers that are set one after the other are all kept if and only if their names are different
from each other and from the names before. -/
theorem headers_withHeaders_iff (nodup : (r.headers.map (·.1)).Nodup) :
    (r.withHeaders headers).headers = r.headers ++ entries headers ↔
      ((r.headers ++ entries headers).map (·.1)).Nodup := by
  constructor
  · intro kept
    rw [← kept]
    exact nodup_withHeaders nodup
  · intro different
    induction headers generalizing r with
    | nil => simp [withHeaders, entries]
    | cons first rest ih =>
      have new : Text.lowercaseString first.1 ∉ r.headers.map (·.1) := by
        rw [List.map_append] at different
        intro old
        exact (List.nodup_append.mp different).2.2 _ old _ (List.mem_cons_self ..) rfl
      have first_kept : (r.header first.1 first.2).headers = _ := headers_header_of_not_mem new
      have sum : (r.header first.1 first.2).headers ++ entries rest =
          r.headers ++ entries (first :: rest) := by
        rw [first_kept, List.append_assoc]
        rfl
      rw [← sum] at different ⊢
      exact ih (nodup_header nodup) different

/-- A new request keeps all headers that are set if and only if no two of them have the same
name. -/
theorem keeps_withHeaders_iff (method : Method) (url : String) :
    ((new method url).withHeaders headers).Keeps headers ↔
      ((entries headers).map (·.1)).Nodup :=
  headers_withHeaders_iff (r := new method url) List.nodup_nil

/-- A header that is kept beside others of other names is found. -/
theorem Keeps.header? (kept : r.Keeps headers) (different : ((entries headers).map (·.1)).Nodup)
    (mem : (name, value) ∈ headers) : r.header? (Text.lowercaseString name) = some value := by
  have whole : r.headers = entries headers := kept
  have entry : (Text.lowercaseString name, value) ∈ r.headers := by
    rw [whole]
    exact List.mem_map.mpr ⟨_, mem, rfl⟩
  obtain ⟨before, after, split⟩ := List.append_of_mem entry
  rw [← whole, split, List.map_append] at different
  refine List.lookup_eq_some_iff.mpr ⟨before, after, split, fun other early => ?_⟩
  have ne := (List.nodup_append.mp different).2.2 _ (List.mem_map_of_mem early) _
    (List.mem_cons_self ..)
  exact bne_iff_ne.mpr ne.symm

end Request

end LoanGateway
