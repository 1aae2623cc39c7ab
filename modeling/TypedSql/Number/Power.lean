/-!
# Powers

The power of two numbers is the one of core, also beside a library that knows powers in every monoid. All statements
about words and digits of this library are about that one.
-/

attribute [default_instance 20000, instance (2000)] instPowNat
