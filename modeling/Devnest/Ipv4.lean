import Mathlib

/-!
# IPv4 networks

Addresses are the numbers below `2 ^ 32`. A network is a block of addresses
whose first one is a multiple of its size, so two networks of one size are
equal or have no address in common (`eq_of_common`). `overlaps` is the test
on the ends of the two blocks; `overlaps_iff` says it finds a common address.
-/

namespace Ipv4

/-- The dotted text of an address. -/
def addressText (a : Nat) : String :=
  ".".intercalate ([2 ^ 24, 2 ^ 16, 2 ^ 8, 1].map fun w => toString (a / w % 256))

/-- A network whose host bits are zero. -/
structure Network where
  base : Nat
  prefixlen : Nat
  prefixlen_le : prefixlen ≤ 32
  base_lt : base < 2 ^ 32
  aligned : 2 ^ (32 - prefixlen) ∣ base
  deriving DecidableEq, Repr

namespace Network

variable {n m : Network} {a : Nat}

def size (n : Network) : Nat := 2 ^ (32 - n.prefixlen)

def text (n : Network) : String := addressText n.base ++ "/" ++ toString n.prefixlen

/-- The last address. -/
def broadcast (n : Network) : Nat := n.base + (n.size - 1)

theorem size_pos (n : Network) : 0 < n.size := Nat.two_pow_pos _

instance : Membership Nat Network := ⟨fun n a => n.base ≤ a ∧ a ≤ n.broadcast⟩

instance (a : Nat) (n : Network) : Decidable (a ∈ n) :=
  inferInstanceAs (Decidable (n.base ≤ a ∧ a ≤ n.broadcast))

theorem mem_iff : a ∈ n ↔ n.base ≤ a ∧ a < n.base + n.size := by
  have hpos := n.size_pos
  show n.base ≤ a ∧ a ≤ n.base + (n.size - 1) ↔ _
  omega

theorem base_mem (n : Network) : n.base ∈ n := by
  have hpos := n.size_pos
  exact mem_iff.mpr ⟨Nat.le_refl _, by omega⟩

theorem broadcast_mem (n : Network) : n.broadcast ∈ n :=
  ⟨Nat.le_add_right _ _, Nat.le_refl _⟩

/-- An address determines the block of its size. -/
theorem base_eq_of_mem (h : a ∈ n) : n.base = a / n.size * n.size := by
  obtain ⟨hlo, hhi⟩ := mem_iff.mp h
  obtain ⟨k, hk⟩ := n.aligned
  change n.base = n.size * k at hk
  have hdiv : a / n.size = k := by
    apply Nat.div_eq_of_lt_le
    · rw [Nat.mul_comm, ← hk]
      exact hlo
    · rw [Nat.succ_mul, Nat.mul_comm, ← hk]
      exact hhi
  rw [hdiv, hk, Nat.mul_comm]

/-- Networks of one size with an address in common are equal. -/
theorem eq_of_common (hlen : n.prefixlen = m.prefixlen) (hn : a ∈ n) (hm : a ∈ m) : n = m := by
  have hsize : n.size = m.size := by rw [size, size, hlen]
  have hbase : n.base = m.base := by rw [base_eq_of_mem hn, base_eq_of_mem hm, hsize]
  cases n
  cases m
  cases hlen
  cases hbase
  rfl

/-! ## Overlap -/

/-- One of the four ends lies in the other block. -/
def overlaps (n m : Network) : Bool :=
  decide (m.base ∈ n) || decide (m.broadcast ∈ n) || decide (n.base ∈ m) || decide (n.broadcast ∈ m)

theorem overlaps_iff : n.overlaps m = true ↔ ∃ a, a ∈ n ∧ a ∈ m := by
  simp only [overlaps, Bool.or_eq_true, decide_eq_true_eq]
  constructor
  · rintro (((h | h) | h) | h)
    · exact ⟨_, h, base_mem m⟩
    · exact ⟨_, h, broadcast_mem m⟩
    · exact ⟨_, base_mem n, h⟩
    · exact ⟨_, broadcast_mem n, h⟩
  · rintro ⟨a, hn, hm⟩
    rcases Nat.le_total n.base m.base with hle | hle
    · exact .inl (.inl (.inl ⟨hle, Nat.le_trans hm.1 hn.2⟩))
    · exact .inl (.inr ⟨hle, Nat.le_trans hn.1 hm.2⟩)

/-! ## Children of a network -/

/-- The `i`-th child with prefix length `len`. -/
def child (n : Network) (len : Nat) (hle : n.prefixlen ≤ len) (hlen : len ≤ 32)
    (i : Fin (2 ^ (len - n.prefixlen))) : Network where
  base := n.base + i * 2 ^ (32 - len)
  prefixlen := len
  prefixlen_le := hlen
  base_lt := by
    have hsplit : n.size = 2 ^ (len - n.prefixlen) * 2 ^ (32 - len) := by
      rw [size, ← Nat.pow_add]
      congr 1
      omega
    have hi : i * 2 ^ (32 - len) < n.size :=
      hsplit ▸ Nat.mul_lt_mul_of_pos_right i.isLt (Nat.two_pow_pos _)
    have hfull : 2 ^ 32 = 2 ^ n.prefixlen * n.size := by
      rw [size, ← Nat.pow_add, Nat.add_sub_cancel' n.prefixlen_le]
    obtain ⟨k, hk⟩ := n.aligned
    change n.base = n.size * k at hk
    have hk' : k < 2 ^ n.prefixlen := by
      by_contra! hge
      have h1 := Nat.mul_le_mul_left n.size hge
      have h2 := n.base_lt
      rw [hk, hfull, Nat.mul_comm (2 ^ n.prefixlen)] at h2
      omega
    have h1 := Nat.mul_le_mul_left n.size hk'
    rw [Nat.mul_succ] at h1
    rw [hfull, hk, Nat.mul_comm (2 ^ n.prefixlen)]
    omega
  aligned := by
    have hdvd : 2 ^ (32 - len) ∣ n.base :=
      Nat.dvd_trans (Nat.pow_dvd_pow 2 (by omega)) n.aligned
    exact Nat.dvd_add hdvd (Nat.dvd_mul_left _ _)

/-- The children with prefix length `len`, in order of address. -/
def subnets (n : Network) (len : Nat) (hle : n.prefixlen ≤ len) (hlen : len ≤ 32) :
    List Network :=
  List.ofFn (n.child len hle hlen)

theorem prefixlen_of_mem_subnets {len : Nat} {hle : n.prefixlen ≤ len} {hlen : len ≤ 32}
    (h : m ∈ n.subnets len hle hlen) : m.prefixlen = len := by
  obtain ⟨i, rfl⟩ := (List.mem_ofFn' _ _).mp h
  rfl

/-! ## Hosts -/

/-- The addresses a host may have: all of them in a block of one or two, all but
the first and the last in a larger one. -/
def hosts (n : Network) : List Nat :=
  if n.prefixlen = 32 then [n.base]
  else if n.prefixlen = 31 then [n.base, n.base + 1]
  else List.range' (n.base + 1) (n.size - 2)

theorem mem_of_mem_hosts (h : a ∈ n.hosts) : a ∈ n := by
  unfold hosts at h
  split at h
  · rw [List.mem_singleton.mp h]
    exact base_mem n
  · split at h
    next hlen =>
      have hsize : n.size = 2 := by simp [size, hlen]
      apply mem_iff.mpr
      rcases List.mem_cons.mp h with rfl | h
      · omega
      · have := List.mem_singleton.mp h
        omega
    next =>
      apply mem_iff.mpr
      obtain ⟨hlo, hhi⟩ := List.mem_range'_1.mp h
      omega

theorem hosts_ne_nil (n : Network) : n.hosts ≠ [] := by
  unfold hosts
  split
  · simp
  · split
    · simp
    next h32 h31 =>
      have hle := n.prefixlen_le
      have hsize : 2 ^ 2 ≤ n.size := Nat.pow_le_pow_right (by decide) (by omega)
      intro hnil
      have hlen := congrArg List.length hnil
      rw [List.length_range'] at hlen
      simp only [List.length_nil] at hlen
      omega

end Network

end Ipv4
