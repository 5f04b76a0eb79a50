import PgpCard.Key.Public
import PgpCard.Proofs.Tlv.RoundTrip

/-!
# The public key template is read back

* `readSingle_publicKeyTemplate` : the template decodes to the modulus and the public exponent that
  it was written from.
-/

set_option autoImplicit false

namespace PgpCard

open Tlv

/-- The template decodes to modulus and public exponent, in front of any bytes. -/
theorem readSingle_publicKeyTemplate (modulus exponent : Bytes)
    (short : modulus.length + exponent.length < 65000) (rest : Bytes) :
    readSingle true (publicKeyTemplate modulus exponent ++ rest) =
      .ok (.mk 0x7F49 (encodeForest [leaf 0x81 modulus, leaf 0x82 exponent])
        [leaf 0x81 modulus, leaf 0x82 exponent], rest) := by
  have first : (leaf 0x81 modulus).Canonical :=
    .primitive (.oneByte 0x81 (by decide)) (by decide) (by omega)
  have second : (leaf 0x82 exponent).Canonical :=
    .primitive (.oneByte 0x82 (by decide)) (by decide) (by omega)
  have visible : ∀ tlv ∈ [leaf 0x81 modulus, leaf 0x82 exponent], tlv.Visible := by
    refine List.forall_mem_cons.mpr ⟨.mk (by decide) (List.forall_mem_nil _), ?_⟩
    exact List.forall_mem_singleton.mpr (.mk (by decide) (List.forall_mem_nil _))
  have room : (encodeForest [leaf 0x81 modulus, leaf 0x82 exponent]).length < 65536 := by
    have one := length_encode_le 0x81 modulus
    have two := length_encode_le 0x82 exponent
    show (encode 0x81 modulus ++ (encode 0x82 exponent ++ [])).length < 65536
    rw [List.append_nil, List.length_append]
    omega
  have whole : (Tlv.mk 0x7F49 (encodeForest [leaf 0x81 modulus, leaf 0x82 exponent])
      [leaf 0x81 modulus, leaf 0x82 exponent]).Canonical := by
    refine .constructed (.twoBytes 0x7F 0x49 (by decide) (by decide)) (by decide) ?_ room
    exact List.forall_mem_cons.mpr ⟨first, List.forall_mem_singleton.mpr second⟩
  have written : publicKeyTemplate modulus exponent =
      encode 0x7F49 (encodeForest [leaf 0x81 modulus, leaf 0x82 exponent]) := by
    simp only [publicKeyTemplate, TlvBuilder.empty, TlvBuilder.add, TlvBuilder.wrap, encodeForest,
      List.flatMap_cons, List.flatMap_nil, List.append_nil, List.nil_append]
    rfl
  rw [written]
  exact whole.readSingle_true (.mk (by decide) visible) rest

end PgpCard
