import JavaIndex.Text.Cut

/-!
# The package `java.lang`

The simple names that are taken to belong to `java.lang` when nothing better is
known. The table is strictly increasing, so membership is decided by binary
search. The wrapper classes of the primitive types are a list of their own and
are not in the table.

## Main definitions

* `JavaLang.boxedPrimitives` — the wrapper classes
* `JavaLang.types` — the table of well-known simple names
* `JavaLang.binarySearch` — membership in a strictly increasing table
-/

namespace JavaIndex.JavaLang

/-- The package itself. -/
def package : String := "java.lang"

/-- The wrapper classes of the primitive types. -/
def boxedPrimitives : List String :=
  ["Integer", "Long", "Short", "Byte", "Double", "Float", "Boolean", "Character"]

/-- Well-known simple names, strictly increasing. -/
def types : Array String := #[
    "AbstractMethodError", "Appendable", "ArithmeticException", "ArrayIndexOutOfBoundsException",
    "ArrayStoreException", "AssertionError", "AutoCloseable", "BootstrapMethodError",
    "CharSequence", "Class", "ClassCastException", "ClassCircularityError", "ClassFormatError",
    "ClassLoader", "ClassNotFoundException", "ClassValue", "CloneNotSupportedException",
    "Cloneable", "Comparable", "Deprecated", "Enum", "EnumConstantNotPresentException", "Error",
    "Exception", "ExceptionInInitializerError", "FunctionalInterface", "IllegalAccessError",
    "IllegalAccessException", "IllegalArgumentException", "IllegalCallerException",
    "IllegalMonitorStateException", "IllegalStateException", "IllegalThreadStateException",
    "IncompatibleClassChangeError", "IndexOutOfBoundsException", "InheritableThreadLocal",
    "InstantiationError", "InstantiationException", "InternalError", "InterruptedException",
    "Iterable", "LinkageError", "MatchException", "Math", "Module", "ModuleLayer",
    "NegativeArraySizeException", "NoClassDefFoundError", "NoSuchFieldError",
    "NoSuchFieldException", "NoSuchMethodError", "NoSuchMethodException", "NullPointerException",
    "Number", "NumberFormatException", "Object", "OutOfMemoryError", "Override", "Package",
    "Process", "ProcessBuilder", "ProcessHandle", "Readable", "Record",
    "ReflectiveOperationException", "Runnable", "Runtime", "RuntimeException", "SafeVarargs",
    "ScopedValue", "SecurityException", "StackOverflowError", "StackTraceElement", "StackWalker",
    "StrictMath", "String", "StringBuffer", "StringBuilder", "StringIndexOutOfBoundsException",
    "SuppressWarnings", "System", "Thread", "ThreadDeath", "ThreadGroup", "ThreadLocal",
    "Throwable", "TypeNotPresentException", "UnknownError", "UnsatisfiedLinkError",
    "UnsupportedClassVersionError", "UnsupportedOperationException", "VerifyError",
    "VirtualMachineError", "Void", "WrongThreadException"]

/-- Looks for `key` among the entries from `low` up to `high`, halving the range. -/
def searchBetween (table : Array String) (key : String) (low high : Nat) : Bool :=
  if _nonempty : low < high then
    let middle := low + (high - low) / 2
    match table[middle]? with
    | none => false
    | some entry =>
      match Text.compare key entry with
      | .eq => true
      | .lt => searchBetween table key low middle
      | .gt => searchBetween table key (middle + 1) high
  else false
termination_by high - low

/-- Membership in a strictly increasing table. -/
def binarySearch (table : Array String) (key : String) : Bool :=
  searchBetween table key 0 table.size

/-- Whether a simple name is taken to belong to `java.lang`. -/
def contains (name : String) : Bool :=
  binarySearch types name

end JavaIndex.JavaLang
