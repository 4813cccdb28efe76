/-! Bytes, as files and streams hold them. -/
namespace Rubric

abbrev Bytes := List UInt8

end Rubric
