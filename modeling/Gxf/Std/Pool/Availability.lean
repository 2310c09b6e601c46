import Gxf.Cuda.CudaStreamPool
import Gxf.Std.Pool.BlockMemoryPool

/-!
# Availability and allocation

Both pools answer availability with a formula of their own.  For bytes of a block
pool it agrees with allocation as long as its 64-bit product is exact, and for whole
blocks as long as the product of the term does not wrap around.  For streams the
comparison points the other way, and the two agree only at the maximum.
-/

namespace Gxf.Std

open Gxf.Core Gxf.Lib Gxf.Cuda

end Gxf.Std
