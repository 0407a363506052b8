/-! Fundamental types: the leaf type kinds of the C family, with the kind
numbers and kind names that C front ends report for them. -/

namespace SymbolAtlas

namespace Fundamental

/-- What is known of one fundamental type. `keyword` says whether its spelling
consists of built-in keywords. -/
structure Row where
  code : Int32
  name : String
  spelling : String
  keyword : Bool
deriving DecidableEq, Repr

def rows : List Row := [
  ⟨2, "Void", "void", true⟩,
  ⟨3, "Bool", "bool", true⟩,
  ⟨4, "Char_U", "char", true⟩,
  ⟨5, "UChar", "unsigned char", true⟩,
  ⟨6, "Char16", "char16_t", true⟩,
  ⟨7, "Char32", "char32_t", true⟩,
  ⟨8, "UShort", "unsigned short", true⟩,
  ⟨9, "UInt", "unsigned int", true⟩,
  ⟨10, "ULong", "unsigned long", true⟩,
  ⟨11, "ULongLong", "unsigned long long", true⟩,
  ⟨12, "UInt128", "unsigned __int128", false⟩,
  ⟨13, "Char_S", "char", true⟩,
  ⟨14, "SChar", "signed char", true⟩,
  ⟨15, "WChar", "wchar_t", true⟩,
  ⟨16, "Short", "short", true⟩,
  ⟨17, "Int", "int", true⟩,
  ⟨18, "Long", "long", true⟩,
  ⟨19, "LongLong", "long long", true⟩,
  ⟨20, "Int128", "__int128", false⟩,
  ⟨21, "Float", "float", true⟩,
  ⟨22, "Double", "double", true⟩,
  ⟨23, "LongDouble", "long double", true⟩,
  ⟨24, "NullPtr", "std::nullptr_t", false⟩,
  ⟨25, "Overload", "Overload", false⟩,
  ⟨26, "Dependent", "Dependent", false⟩,
  ⟨27, "ObjCId", "id", false⟩,
  ⟨28, "ObjCClass", "Class", false⟩,
  ⟨29, "ObjCSel", "SEL", false⟩,
  ⟨30, "Float128", "__float128", false⟩,
  ⟨31, "Half", "half", false⟩,
  ⟨32, "Float16", "_Float16", false⟩,
  ⟨33, "ShortAccum", "short _Accum", false⟩,
  ⟨34, "Accum", "_Accum", false⟩,
  ⟨35, "LongAccum", "long _Accum", false⟩,
  ⟨36, "UShortAccum", "unsigned short _Accum", false⟩,
  ⟨37, "UAccum", "unsigned _Accum", false⟩,
  ⟨38, "ULongAccum", "unsigned long _Accum", false⟩,
  ⟨39, "BFloat16", "__bf16", false⟩,
  ⟨40, "Ibm128", "__ibm128", false⟩,
  ⟨100, "Complex", "Complex", false⟩,
  ⟨102, "BlockPointer", "BlockPointer", false⟩,
  ⟨108, "ObjCInterface", "ObjCInterface", false⟩,
  ⟨109, "ObjCObjectPointer", "ObjCObjectPointer", false⟩,
  ⟨110, "FunctionNoProto", "FunctionNoProto", false⟩,
  ⟨111, "FunctionProto", "FunctionProto", false⟩,
  ⟨112, "ConstantArray", "ConstantArray", false⟩,
  ⟨113, "Vector", "Vector", false⟩,
  ⟨114, "IncompleteArray", "IncompleteArray", false⟩,
  ⟨115, "VariableArray", "VariableArray", false⟩,
  ⟨116, "DependentSizedArray", "DependentSizedArray", false⟩,
  ⟨117, "MemberPointer", "MemberPointer", false⟩,
  ⟨118, "Auto", "auto", true⟩,
  ⟨120, "Pipe", "pipe", false⟩,
  ⟨121, "OCLImage1dRO", "image1d_t", false⟩,
  ⟨122, "OCLImage1dArrayRO", "image1d_array_t", false⟩,
  ⟨123, "OCLImage1dBufferRO", "image1d_buffer_t", false⟩,
  ⟨124, "OCLImage2dRO", "image2d_t", false⟩,
  ⟨125, "OCLImage2dArrayRO", "image2d_array_t", false⟩,
  ⟨126, "OCLImage2dDepthRO", "image2d_depth_t", false⟩,
  ⟨127, "OCLImage2dArrayDepthRO", "image2d_array_depth_t", false⟩,
  ⟨128, "OCLImage2dMSAARO", "image2d_msaa_t", false⟩,
  ⟨129, "OCLImage2dArrayMSAARO", "image2d_array_msaa_t", false⟩,
  ⟨130, "OCLImage2dMSAADepthRO", "image2d_msaa_depth_t", false⟩,
  ⟨131, "OCLImage2dArrayMSAADepthRO", "image2d_array_msaa_depth_t", false⟩,
  ⟨132, "OCLImage3dRO", "image3d_t", false⟩,
  ⟨133, "OCLImage1dWO", "write_only image1d_t", false⟩,
  ⟨134, "OCLImage1dArrayWO", "write_only image1d_array_t", false⟩,
  ⟨135, "OCLImage1dBufferWO", "write_only image1d_buffer_t", false⟩,
  ⟨136, "OCLImage2dWO", "write_only image2d_t", false⟩,
  ⟨137, "OCLImage2dArrayWO", "write_only image2d_array_t", false⟩,
  ⟨138, "OCLImage2dDepthWO", "write_only image2d_depth_t", false⟩,
  ⟨139, "OCLImage2dArrayDepthWO", "write_only image2d_array_depth_t", false⟩,
  ⟨140, "OCLImage2dMSAAWO", "write_only image2d_msaa_t", false⟩,
  ⟨141, "OCLImage2dArrayMSAAWO", "write_only image2d_array_msaa_t", false⟩,
  ⟨142, "OCLImage2dMSAADepthWO", "write_only image2d_msaa_depth_t", false⟩,
  ⟨143, "OCLImage2dArrayMSAADepthWO", "write_only image2d_array_msaa_depth_t", false⟩,
  ⟨144, "OCLImage3dWO", "write_only image3d_t", false⟩,
  ⟨145, "OCLImage1dRW", "read_write image1d_t", false⟩,
  ⟨146, "OCLImage1dArrayRW", "read_write image1d_array_t", false⟩,
  ⟨147, "OCLImage1dBufferRW", "read_write image1d_buffer_t", false⟩,
  ⟨148, "OCLImage2dRW", "read_write image2d_t", false⟩,
  ⟨149, "OCLImage2dArrayRW", "read_write image2d_array_t", false⟩,
  ⟨150, "OCLImage2dDepthRW", "read_write image2d_depth_t", false⟩,
  ⟨151, "OCLImage2dArrayDepthRW", "read_write image2d_array_depth_t", false⟩,
  ⟨152, "OCLImage2dMSAARW", "read_write image2d_msaa_t", false⟩,
  ⟨153, "OCLImage2dArrayMSAARW", "read_write image2d_array_msaa_t", false⟩,
  ⟨154, "OCLImage2dMSAADepthRW", "read_write image2d_msaa_depth_t", false⟩,
  ⟨155, "OCLImage2dArrayMSAADepthRW", "read_write image2d_array_msaa_depth_t", false⟩,
  ⟨156, "OCLImage3dRW", "read_write image3d_t", false⟩,
  ⟨157, "OCLSampler", "sampler_t", false⟩,
  ⟨158, "OCLEvent", "event_t", false⟩,
  ⟨159, "OCLQueue", "queue_t", false⟩,
  ⟨160, "OCLReserveID", "reserve_id_t", false⟩,
  ⟨161, "ObjCObject", "ObjCObject", false⟩,
  ⟨162, "ObjCTypeParam", "ObjCTypeParam", false⟩,
  ⟨163, "Attributed", "Attributed", false⟩,
  ⟨164, "OCLIntelSubgroupAVCMcePayload", "intel_sub_group_avc_mce_payload_t", false⟩,
  ⟨165, "OCLIntelSubgroupAVCImePayload", "intel_sub_group_avc_ime_payload_t", false⟩,
  ⟨166, "OCLIntelSubgroupAVCRefPayload", "intel_sub_group_avc_ref_payload_t", false⟩,
  ⟨167, "OCLIntelSubgroupAVCSicPayload", "intel_sub_group_avc_sic_payload_t", false⟩,
  ⟨168, "OCLIntelSubgroupAVCMceResult", "intel_sub_group_avc_mce_result_t", false⟩,
  ⟨169, "OCLIntelSubgroupAVCImeResult", "intel_sub_group_avc_ime_result_t", false⟩,
  ⟨170, "OCLIntelSubgroupAVCRefResult", "intel_sub_group_avc_ref_result_t", false⟩,
  ⟨171, "OCLIntelSubgroupAVCSicResult", "intel_sub_group_avc_sic_result_t", false⟩,
  ⟨172, "OCLIntelSubgroupAVCImeResultSingleRefStreamout", "intel_sub_group_avc_ime_result_single_reference_streamout_t", false⟩,
  ⟨173, "OCLIntelSubgroupAVCImeResultDualRefStreamout", "intel_sub_group_avc_ime_result_dual_reference_streamout_t", false⟩,
  ⟨174, "OCLIntelSubgroupAVCImeSingleRefStreamin", "intel_sub_group_avc_ime_single_reference_streamin_t", false⟩,
  ⟨175, "OCLIntelSubgroupAVCImeDualRefStreamin", "intel_sub_group_avc_ime_dual_reference_streamin_t", false⟩,
  ⟨176, "ExtVector", "ExtVector", false⟩,
  ⟨177, "Atomic", "_Atomic", false⟩]

end Fundamental

structure Fundamental where
  index : Fin Fundamental.rows.length
deriving DecidableEq, Repr

namespace Fundamental

def row (type : Fundamental) : Row :=
  rows[type.index]

def code (type : Fundamental) : Int32 :=
  type.row.code

def name (type : Fundamental) : String :=
  type.row.name

def spelling (type : Fundamental) : String :=
  type.row.spelling

def isKeyword (type : Fundamental) : Bool :=
  type.row.keyword

def all : List Fundamental :=
  (List.finRange rows.length).map Fundamental.mk

def ofCode? (code : Int32) : Option Fundamental :=
  all.find? fun type => type.code == code

def ofName? (name : String) : Option Fundamental :=
  all.find? fun type => type.name == name

end Fundamental

end SymbolAtlas
