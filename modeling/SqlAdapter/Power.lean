/-
Powers of whole numbers.

`2 ^ 64` is the power that the numbers have by themselves, in every module and
whatever algebra is imported beside it, so that definitions and the theorems
about them speak of one and the same term.
-/

namespace SqlAdapter

attribute [instance (high), default_instance (high + 1)] instPowNat

end SqlAdapter
