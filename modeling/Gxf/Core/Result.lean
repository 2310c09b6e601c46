/-!
# Result codes

The codes every function of the C interface returns, in the order of `gxf.h`.
-/

namespace Gxf.Core

/-- `gxf_result_t`. -/
inductive GxfResult where
  | GXF_SUCCESS
  | GXF_FAILURE
  | GXF_NOT_IMPLEMENTED
  | GXF_FILE_NOT_FOUND
  | GXF_INVALID_ENUM
  | GXF_NULL_POINTER
  | GXF_UNINITIALIZED_VALUE
  | GXF_ARGUMENT_NULL
  | GXF_ARGUMENT_OUT_OF_RANGE
  | GXF_ARGUMENT_INVALID
  | GXF_OUT_OF_MEMORY
  | GXF_MEMORY_INVALID_STORAGE_MODE
  | GXF_CONTEXT_INVALID
  | GXF_EXTENSION_NOT_FOUND
  | GXF_EXTENSION_FILE_NOT_FOUND
  | GXF_EXTENSION_NO_FACTORY
  | GXF_FACTORY_TOO_MANY_COMPONENTS
  | GXF_FACTORY_DUPLICATE_TID
  | GXF_FACTORY_UNKNOWN_TID
  | GXF_FACTORY_ABSTRACT_CLASS
  | GXF_FACTORY_UNKNOWN_CLASS_NAME
  | GXF_FACTORY_INVALID_INFO
  | GXF_FACTORY_INCOMPATIBLE
  | GXF_ENTITY_NOT_FOUND
  | GXF_ENTITY_NAME_EXCEEDS_LIMIT
  | GXF_ENTITY_COMPONENT_NOT_FOUND
  | GXF_ENTITY_COMPONENT_NAME_EXCEEDS_LIMIT
  | GXF_ENTITY_CAN_NOT_ADD_COMPONENT_AFTER_INITIALIZATION
  | GXF_ENTITY_CAN_NOT_REMOVE_COMPONENT_AFTER_INITIALIZATION
  | GXF_ENTITY_MAX_COMPONENTS_LIMIT_EXCEEDED
  | GXF_PARAMETER_NOT_FOUND
  | GXF_PARAMETER_ALREADY_REGISTERED
  | GXF_PARAMETER_INVALID_TYPE
  | GXF_PARAMETER_OUT_OF_RANGE
  | GXF_PARAMETER_NOT_INITIALIZED
  | GXF_PARAMETER_CAN_NOT_MODIFY_CONSTANT
  | GXF_PARAMETER_PARSER_ERROR
  | GXF_PARAMETER_NOT_NUMERIC
  | GXF_PARAMETER_MANDATORY_NOT_SET
  | GXF_CONTRACT_INVALID_SEQUENCE
  | GXF_CONTRACT_PARAMETER_NOT_SET
  | GXF_CONTRACT_MESSAGE_NOT_AVAILABLE
  | GXF_INVALID_LIFECYCLE_STAGE
  | GXF_INVALID_EXECUTION_SEQUENCE
  | GXF_REF_COUNT_NEGATIVE
  | GXF_RESULT_ARRAY_TOO_SMALL
  | GXF_INVALID_DATA_FORMAT
  | GXF_EXCEEDING_PREALLOCATED_SIZE
  | GXF_QUERY_NOT_ENOUGH_CAPACITY
  | GXF_QUERY_NOT_APPLICABLE
  | GXF_QUERY_NOT_FOUND
  | GXF_NOT_FINISHED
  | GXF_HTTP_GET_FAILURE
  | GXF_HTTP_POST_FAILURE
  | GXF_ENTITY_GROUP_NOT_FOUND
  | GXF_RESOURCE_NOT_INITIALIZED
  | GXF_RESOURCE_NOT_FOUND
  | GXF_CONNECTION_BROKEN
  | GXF_CONNECTION_ATTEMPTS_EXCEEDED
  | GXF_IPC_CONNECTION_FAILURE
  | GXF_IPC_CALL_FAILURE
  | GXF_IPC_SERVICE_NOT_FOUND
  deriving DecidableEq, Repr

end Gxf.Core
